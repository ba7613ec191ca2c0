import Highlighter.Regex.Program

/-!
# Matching

Matching follows the preferences of a program: it tries the preferred way first
and comes back to the others only if what follows cannot match. What follows is
passed along as a function, the *continuation*, so a choice is decided together
with everything behind it.

Whether a program can match from a point of choice at a place does not depend on
how that point was reached. So a point that has been passed at a place before
need not be passed there again: either it failed, or it is being tried right
now, by a loop that has made no progress. `Seen` is the set of the points passed
so far, each with its place, and it is handed on from one attempt to the next.
A loop can therefore be passed at most once at every place, which bounds its
rounds by the length of the text.

## Main definitions

* `Seen`: the points of choice passed so far.
* `Thread`: a place, with the groups matched on the way to it.
* `Code.run`: matching a program and what follows it.
* `Code.matchAt?`: the preferred match of a program at a place.
-/

namespace Highlighter

/-- The points of choice passed so far, as the bits of a number. The point with
    label `l`, passed `d` bytes behind the start, has the number
    `d * labels + l`. -/
structure Seen where
  /-- The number of labels. -/
  labels : Nat
  /-- The offset where matching started. -/
  origin : Nat
  /-- The points, one bit for each. -/
  bits : Nat := 0

namespace Seen

/-- The number of a point. -/
def key (s : Seen) (label offset : Nat) : Nat :=
  (offset - s.origin) * s.labels + label

/-- Whether a point has been passed. -/
def contains (s : Seen) (label offset : Nat) : Bool :=
  s.bits.testBit (s.key label offset)

/-- Notes a point. -/
def insert (s : Seen) (label offset : Nat) : Seen :=
  { s with bits := s.bits ||| (1 <<< s.key label offset) }

end Seen

/-- A place, with the groups matched on the way to it, the latest first. -/
structure Thread where
  /-- The place. -/
  place : Place
  /-- The groups and their spans. -/
  groups : List (Nat × Span) := []

/-- The outcome of an attempt: the end of a match, and the points passed. -/
abbrev Attempt := Option Thread × Seen

/-- What follows a program. -/
abbrev Continuation := Thread → Seen → Attempt

namespace Attempt

/-- The second attempt where the first has failed. -/
def orElse (first : Attempt) (second : Seen → Attempt) : Attempt :=
  match first with
  | (some t, seen) => (some t, seen)
  | (none, seen) => second seen

end Attempt

namespace Code

/-- Passes a point of choice, unless it has been passed here before. -/
def atPoint (label : Nat) (t : Thread) (seen : Seen) (go : Seen → Attempt) : Attempt :=
  if seen.contains label t.place.offset then (none, seen)
  else go (seen.insert label t.place.offset)

/-- The rounds of a loop: another round and the loop again, or what follows the
    loop. Each round but the last begins at a new place. -/
def rounds (label : Nat) (greedy : Bool) (body : Continuation → Thread → Seen → Attempt)
    (follow : Continuation) : (fuel : Nat) → Thread → Seen → Attempt
  | 0, _, seen => (none, seen)
  | n + 1, t, seen =>
    atPoint label t seen fun seen =>
      if greedy then
        (body (rounds label greedy body follow n) t seen).orElse (follow t)
      else
        (follow t seen).orElse (body (rounds label greedy body follow n) t)

/-- Copies of a body one after the other. `body` is given the number that its
    labels are raised by, which `stride` adds to from one copy to the next. -/
def inRow (body : Nat → Continuation → Thread → Seen → Attempt) (stride : Nat)
    (follow : Continuation) : (count : Nat) → (shift : Nat) → Thread → Seen → Attempt
  | 0, _, t, seen => follow t seen
  | n + 1, shift, t, seen =>
    body shift (inRow body stride follow n (shift + stride)) t seen

/-- Copies of a body, each behind a choice between it, with the copies that
    come after it, and what follows them all. -/
def nested (label : Nat) (greedy : Bool)
    (body : Nat → Continuation → Thread → Seen → Attempt) (stride : Nat)
    (follow : Continuation) : (count : Nat) → (shift : Nat) → Thread → Seen → Attempt
  | 0, _, t, seen => follow t seen
  | n + 1, shift, t, seen =>
    atPoint (label + shift) t seen fun seen =>
      let more := body shift (nested label greedy body stride follow n (shift + stride)) t
      if greedy then (more seen).orElse (follow t) else (follow t seen).orElse more

/-- Matches a program, its labels raised by `shift`, and what follows it. -/
def run : Code → (shift : Nat) → Continuation → Thread → Seen → Attempt
  | empty, _, follow, t, seen => follow t seen
  | literal cs, _, follow, t, seen =>
    match t.place.skipText? cs with
    | some place => follow { t with place } seen
    | none => (none, seen)
  | set s, _, follow, t, seen =>
    match t.place.rest with
    | [] => (none, seen)
    | c :: rest =>
      if s.contains c then follow { t with place := t.place.next c rest } seen
      else (none, seen)
  | look l, _, follow, t, seen => if l.holds t.place then follow t seen else (none, seen)
  | group index body, shift, follow, t, seen =>
    run body shift
      (fun t' => follow { t' with
        groups := (index, ⟨t.place.offset, t'.place.offset⟩) :: t'.groups })
      t seen
  | seq first second, shift, follow, t, seen => run first shift (run second shift follow) t seen
  | alt label first second, shift, follow, t, seen =>
    atPoint (label + shift) t seen fun seen =>
      (run first shift follow t seen).orElse (run second shift follow t)
  | star label greedy body, shift, follow, t, seen =>
    rounds (label + shift) greedy (run body shift) follow (t.place.rest.length + 2) t seen
  | plus label greedy body, shift, follow, t, seen =>
    run body shift
      (rounds (label + shift) greedy (run body shift) follow (t.place.rest.length + 2)) t seen
  | times count stride body, shift, follow, t, seen =>
    inRow (run body) stride follow count shift t seen
  | upTo label count stride greedy body, shift, follow, t, seen =>
    nested label greedy (run body) stride follow count shift t seen

/-- The preferred match of a program with `labels` labels at a place. -/
def matchAt? (code : Code) (labels : Nat) (place : Place) : Option Thread :=
  (run code 0 (fun t seen => (some t, seen)) { place } { labels, origin := place.offset }).1

end Code

end Highlighter
