import Highlighter.Regex.Shape

/-!
# Programs

A program is a shape made ready for matching. Every point where matching has a
choice carries a label of its own. Matching notes the labels it has passed at
each place and never passes one twice at the same place, so it stops on loops
that match nothing.

There are two loops. `star` decides before each round whether to start it, and
is used where the body cannot match the empty text. `plus` decides after each
round whether to start another. A starred body that can match the empty text
becomes an optional `plus`: so its first round is preferred to leaving the loop
even where the round matches nothing.

A repetition with counts stands for that many copies of its body. The body is
kept once, and the labels of a copy are those of the copy before it raised by
the number of labels that a copy takes.

## Main definitions

* `Code`: programs.
* `Code.ofShape`: the program of a shape.
-/

namespace Highlighter

/-- Programs. Labels tell apart the points of choice. -/
inductive Code where
  /-- Matches the empty text. -/
  | empty
  /-- Matches the given characters. -/
  | literal (cs : List Char)
  /-- Matches one character of a set. -/
  | set (s : CharSet)
  /-- Matches the empty text where an assertion holds. -/
  | look (l : Look)
  /-- Matches the body and remembers where. -/
  | group (index : Nat) (body : Code)
  /-- Matches one program after another. -/
  | seq (first second : Code)
  /-- Matches one of two programs, the first preferred. -/
  | alt (label : Nat) (first second : Code)
  /-- Matches the body any number of times. -/
  | star (label : Nat) (greedy : Bool) (body : Code)
  /-- Matches the body once or more. -/
  | plus (label : Nat) (greedy : Bool) (body : Code)
  /-- Matches `count` copies of the body, each with `stride` labels. -/
  | times (count stride : Nat) (body : Code)
  /-- Matches up to `count` copies of the body, each inside a choice of its own;
      a choice and its copy have `stride` labels, of which `label` is the first
      choice's. -/
  | upTo (label count stride : Nat) (greedy : Bool) (body : Code)

namespace Code

/-- The program that fails everywhere. -/
def fail : Code := .set .empty

/-- A way to make a program from the first free label, with the next free
    one. -/
abbrev Maker := Nat → Code × Nat

/-- One program after another. -/
def thenMake (a b : Maker) : Maker := fun n =>
  let (first, n) := a n
  let (second, n) := b n
  (.seq first second, n)

/-- A program or nothing, in the order of preference. -/
def optionalMake (greedy : Bool) (a : Maker) : Maker := fun n =>
  let (body, m) := a (n + 1)
  (if greedy then .alt n body .empty else .alt n .empty body, m)

/-- The same program a number of times. -/
def timesMake (a : Maker) (count : Nat) : Maker := fun n =>
  if count = 0 then (.empty, n)
  else if count = 1 then a n
  else
    let (body, m) := a n
    (.times count (m - n) body, n + count * (m - n))

/-- The same program up to a number of times, each round inside the one
    before. -/
def upToMake (greedy : Bool) (a : Maker) (count : Nat) : Maker := fun n =>
  if count = 0 then (.empty, n)
  else if count = 1 then optionalMake greedy a n
  else
    let (body, m) := a (n + 1)
    (.upTo n count (m - n) greedy body, n + count * (m - n))

/-- The same program once or more. -/
def plusMake (greedy : Bool) (a : Maker) : Maker := fun n =>
  let (body, m) := a (n + 1)
  (.plus n greedy body, m)

/-- The same program any number of times; `proper` tells that it cannot match
    the empty text. -/
def starMake (greedy proper : Bool) (a : Maker) : Maker :=
  if proper then fun n =>
    let (body, m) := a (n + 1)
    (.star n greedy body, m)
  else optionalMake greedy (plusMake greedy a)

/-- A repetition of a program. -/
def repeatMake (min : Nat) (max : Option Nat) (greedy proper : Bool) (a : Maker) : Maker :=
  match max with
  | some max => if min = 0 then upToMake greedy a max
    else if max ≤ min then timesMake a min
    else thenMake (timesMake a min) (upToMake greedy a (max - min))
  | none => match min with
    | 0 => starMake greedy proper a
    | 1 => plusMake greedy a
    | k + 1 => thenMake (timesMake a k) (plusMake greedy a)

mutual

/-- The maker of the program of a shape. -/
def make : Shape → Maker
  | .empty => fun n => (.empty, n)
  | .literal cs => fun n => (.literal cs, n)
  | .set s => fun n => (.set s, n)
  | .bytes s => fun n => (.set s, n)
  | .look l => fun n => (.look l, n)
  | .repetition min max greedy body => repeatMake min max greedy body.isProper (make body)
  | .group index body => fun n =>
    let (code, n) := make body n
    (.group index code, n)
  | .seq parts => makeSeq parts
  | .alt branches => makeAlt branches

/-- The maker of the program of a sequence. -/
def makeSeq : List Shape → Maker
  | [] => fun n => (.empty, n)
  | [s] => make s
  | s :: ss => thenMake (make s) (makeSeq ss)

/-- The maker of the program of a choice. -/
def makeAlt : List Shape → Maker
  | [] => fun n => (fail, n)
  | [s] => make s
  | s :: ss => fun n =>
    let (first, m) := make s (n + 1)
    let (second, m) := makeAlt ss m
    (.alt n first second, m)

end

/-- The program of a shape, and the number of its labels. -/
def ofShape (s : Shape) : Code × Nat := make s 0

end Code

end Highlighter
