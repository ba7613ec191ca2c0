/-!
# Binary floating-point numbers

The magnitudes of the 64-bit binary format, kept as an integer times a power of
two, and the rounding of exact quotients to them. A quotient is rounded to the
nearest number of the format, a tie to the one with the even integer.

`Binary64.ofParts?` reads a decimal number the way streaming decoders do: the
integer and the power of ten are rounded first, and their product or quotient
is rounded again. For long numbers this may differ by one unit from rounding
the exact value once.

## Main definitions

* `Binary64`: a magnitude of the format.
* `Binary64.ofRatio?`: the nearest magnitude to a quotient.
* `Binary64.ofParts?`: an integer times a power of ten.
-/

namespace Highlighter

/-- The magnitude `mantissa * 2 ^ exponent`. -/
structure Binary64 where
  /-- The integer, below `2 ^ 53`. -/
  mantissa : Nat
  /-- The exponent, at least -1074. -/
  exponent : Int
deriving DecidableEq

namespace Binary64

/-- Zero. -/
def zero : Binary64 := ⟨0, -1074⟩

/-- A quotient rounded to the nearest integer, a tie to the even one. -/
def roundQuotient (num den : Nat) : Nat :=
  let q := num / den
  let r := num % den
  if den < 2 * r ∨ (2 * r = den ∧ q % 2 = 1) then q + 1 else q

/-- The quotient `num / den / 2 ^ e` as two integers. -/
def scale (num den : Nat) (e : Int) : Nat × Nat :=
  if 0 ≤ e then (num, den * Nat.pow 2 e.toNat) else (num * Nat.pow 2 (-e).toNat, den)

/-- The exponent that leaves 53 binary digits of a positive quotient, or the
    least exponent of the format. -/
def exponentFor (num den : Nat) : Int :=
  let guess : Int := (num.log2 : Int) - (den.log2 : Int) - 53
  let (n, d) := scale num den guess
  let exact := if d * Nat.pow 2 53 ≤ n then guess + 1 else guess
  if exact < -1074 then -1074 else exact

/-- The nearest magnitude to a quotient, none if it is beyond the format. -/
def ofRatio? (num den : Nat) : Option Binary64 :=
  if num = 0 then some zero
  else
    let e := exponentFor num den
    let (n, d) := scale num den e
    let m := roundQuotient n d
    let rounded : Binary64 := if m = Nat.pow 2 53 then ⟨Nat.pow 2 52, e + 1⟩ else ⟨m, e⟩
    if 971 < rounded.exponent then none else some rounded

/-- The magnitude as an exact quotient. -/
def ratio (b : Binary64) : Nat × Nat :=
  if 0 ≤ b.exponent then (b.mantissa * Nat.pow 2 b.exponent.toNat, 1)
  else (b.mantissa, Nat.pow 2 (-b.exponent).toNat)

/-- The rounded product. -/
def mul? (a b : Binary64) : Option Binary64 :=
  let (n, d) := a.ratio
  let (n', d') := b.ratio
  ofRatio? (n * n') (d * d')

/-- The rounded quotient by a positive number. -/
def div? (a b : Binary64) : Option Binary64 :=
  let (n, d) := a.ratio
  let (n', d') := b.ratio
  ofRatio? (n * d') (d * n')

/-- A number divided by a large power of ten, in steps that the format can
    hold. Four steps reach zero from any number. -/
def shrink? : (steps : Nat) → Binary64 → (power : Nat) → Option Binary64
  | 0, _, _ => some zero
  | n + 1, b, power => do
    if power ≤ 308 then div? b (← ofRatio? (Nat.pow 10 power) 1)
    else if b.mantissa = 0 then some zero
    else shrink? n (← div? b (← ofRatio? (Nat.pow 10 308) 1)) (power - 308)

/-- An integer times a power of ten, none if it is beyond the format. -/
def ofParts? (significand : Nat) (exponent : Int) : Option Binary64 := do
  let b ← ofRatio? significand 1
  if 0 ≤ exponent then
    if b.mantissa = 0 then some zero
    else if exponent ≤ 308 then mul? b (← ofRatio? (Nat.pow 10 exponent.toNat) 1)
    else none
  else shrink? 5 b (-exponent).toNat

end Binary64

end Highlighter
