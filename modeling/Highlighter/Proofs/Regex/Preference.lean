import Highlighter.Regex.Search

/-!
# The order of preference

What programs do that are written out.

A shape that is made of characters, sets and assertions can match in at most one way.
`Shape.pass?` says where it leads from a place. A choice between such shapes should
lead where the first of them leads that leads anywhere, and `Code.selects_makeAlt`
says that its program does.

What could be in the way is the memory of the points of choice. A point is passed once
at a place, so a branch could be lost to an earlier visit. But the points of a choice
are numbered, a branch with one way to match has none, and nothing has passed the
later points when an earlier one fails. `Seen.Fresh` is that invariant.

A program with one way to match is said to *pass* what follows it on. A program that
chooses is said to *select* if nothing follows it. A program that passes may stand in
front of one that selects.

## Main definitions

* `Shape.step?`, `Shape.steps?`, `Shape.pass?`: where a shape with one way to match
  leads.
* `Shape.Straight`: a shape of characters, sets and assertions.
* `Shape.WrittenOut`: a shape of characters and assertions.
* `Seen.Fresh`: points of choice that have not been passed.
* `Code.Passes`, `Code.Selects`: what a program does with what follows it, and what it
  does if nothing follows.

## Theorems

* `Place.skipText?_append`: Characters are skipped one after the other.
* `Shape.pass?_sequence`: A sequence leads where its members lead together.
* `Seen.Fresh.insert`: Passing a point leaves the later ones.
* `Code.passes_make`: The program of a straight shape passes.
* `Code.selects_makeAlt`: The program of a choice selects the first branch that leads
  anywhere.
* `Code.selects_makeSeq`: So it does behind a beginning that passes.
-/

namespace Highlighter

/-! ## Shapes with one way to match -/

namespace Place

theorem skipText?_append (cs ds : List Char) (p : Place) :
    p.skipText? (cs ++ ds) = (p.skipText? cs).bind (·.skipText? ds) := by
  induction cs generalizing p with
  | nil => rfl
  | cons c cs ih =>
      rw [List.cons_append, skipText?, skipText?]
      rcases p.rest with _ | ⟨d, rest⟩
      · rfl
      · by_cases hc : c = d
        · simp only [if_pos hc, ih]
        · simp only [if_neg hc, Option.bind_none]

/-- The place behind the next character, if it is in a set. -/
def skipOne? (s : CharSet) (p : Place) : Option Place :=
  match p.rest with
  | [] => none
  | c :: rest => if s.contains c then some (p.next c rest) else none

end Place

namespace Shape

/-- Shapes that are one step of a match. -/
def isStep : Shape → Bool
  | literal _ => true
  | set _ => true
  | bytes _ => true
  | look _ => true
  | _ => false

/-- Where a step leads. -/
def step? : Shape → Place → Option Place
  | literal cs, p => p.skipText? cs
  | set s, p => p.skipOne? s
  | bytes s, p => p.skipOne? s
  | look l, p => if l.holds p then some p else none
  | _, _ => none

/-- Where some steps lead together. -/
def steps? (ss : List Shape) (p : Place) : Option Place := ss.foldlM (fun p s => s.step? p) p

/-- Where a shape leads that is made of steps. -/
def pass? (s : Shape) (p : Place) : Option Place := steps? s.parts p

/-- Where a choice leads: to where its first branch leads that leads anywhere. -/
def choose? (bs : List Shape) (p : Place) : Option Place := bs.findSome? (·.pass? p)

/-- A shape that is made of steps. -/
def Straight (s : Shape) : Prop := ∀ p ∈ s.parts, p.isStep = true

/-- A shape of characters and assertions, without sets. -/
def WrittenOut (s : Shape) : Prop := ∀ p ∈ s.parts, (∃ cs, p = literal cs) ∨ ∃ l, p = look l

theorem steps?_cons (s : Shape) (ss : List Shape) (p : Place) :
    steps? (s :: ss) p = (s.step? p).bind (steps? ss) := rfl

theorem steps?_append (ss ts : List Shape) (p : Place) :
    steps? (ss ++ ts) p = (steps? ss p).bind (steps? ts) :=
  List.foldlM_append

theorem steps?_singleton (s : Shape) (p : Place) : steps? [s] p = s.step? p := by
  rw [steps?_cons]
  exact Option.bind_fun_some _

theorem choose?_cons (b : Shape) (bs : List Shape) (p : Place) :
    choose? (b :: bs) p = (b.pass? p).or (choose? bs p) := by
  rw [choose?, List.findSome?_cons]
  rcases b.pass? p with _ | q <;> rfl

theorem choose?_singleton (b : Shape) : choose? [b] = b.pass? := by
  funext p
  rw [choose?_cons, choose?, List.findSome?_nil, Option.or_none]

theorem parts_of_isStep {s : Shape} (h : s.isStep = true) : s.parts = [s] := by
  cases s with
  | literal | set | bytes | look => rfl
  | empty | repetition | group | seq | alt => cases h

theorem straight_of_isStep {s : Shape} (h : s.isStep = true) : s.Straight := by
  rw [Straight, parts_of_isStep h]
  exact List.forall_mem_singleton.mpr h

theorem pass?_of_isStep {s : Shape} (h : s.isStep = true) (p : Place) : s.pass? p = s.step? p := by
  rw [pass?, parts_of_isStep h, steps?_singleton]

theorem WrittenOut.straight {s : Shape} (h : s.WrittenOut) : s.Straight := by
  intro p hp
  rcases h p hp with ⟨cs, rfl⟩ | ⟨l, rfl⟩
  · rfl
  · rfl

/-! ## Sequences -/

-- Two literals that follow each other are one literal, which takes the same characters.
theorem steps?_consPart (s : Shape) (ss : List Shape) (p : Place) :
    steps? (consPart s ss) p = steps? (s :: ss) p := by
  unfold consPart
  split
  · next cs ds ps =>
      rw [steps?_cons, steps?_cons, step?, step?, Place.skipText?_append, Option.bind_assoc]
      rfl
  · rfl

theorem steps?_foldr_consPart (ss : List Shape) (p : Place) :
    steps? (ss.foldr consPart []) p = steps? ss p := by
  induction ss generalizing p with
  | nil => rfl
  | cons s ss ih =>
      rw [List.foldr_cons, steps?_consPart, steps?_cons, steps?_cons]
      exact congrArg _ (funext ih)

/-- Joining two literals leaves a literal, and all else as it is. -/
theorem forall_mem_consPart {P : Shape → Prop} (hliteral : ∀ cs, P (literal cs)) {s : Shape}
    {ss : List Shape} (hs : P s) (hss : ∀ t ∈ ss, P t) : ∀ t ∈ consPart s ss, P t := by
  unfold consPart
  split
  · rw [List.forall_mem_cons] at hss ⊢
    exact ⟨hliteral _, hss.2⟩
  · exact List.forall_mem_cons.mpr ⟨hs, hss⟩

theorem forall_mem_foldr_consPart {P : Shape → Prop} (hliteral : ∀ cs, P (literal cs))
    {ss : List Shape} (h : ∀ s ∈ ss, P s) : ∀ t ∈ ss.foldr consPart [], P t := by
  induction ss with
  | nil => exact h
  | cons s ss ih =>
      rw [List.forall_mem_cons] at h
      exact forall_mem_consPart hliteral h.1 (ih h.2)

/-- What is no literal stays the last part. -/
theorem foldr_consPart_append {x : Shape} (hx : ∀ cs, x ≠ literal cs) (ss : List Shape) :
    (ss ++ [x]).foldr consPart [] = ss.foldr consPart [] ++ [x] := by
  induction ss with
  | nil => cases x <;> rfl
  | cons s ss ih =>
      rw [List.cons_append, List.foldr_cons, ih, List.foldr_cons]
      rcases hrest : ss.foldr consPart [] with _ | ⟨t, ts⟩
      · cases s with
        | literal cs =>
            cases x with
            | literal ds => exact absurd rfl (hx ds)
            | empty | set | bytes | look | repetition | group | seq | alt => rfl
        | empty | set | bytes | look | repetition | group | seq | alt => rfl
      · cases s with
        | literal cs => cases t <;> rfl
        | empty | set | bytes | look | repetition | group | seq | alt => rfl

theorem parts_sequence {ss : List Shape} (h : ∀ s ∈ ss, s.Straight) :
    (sequence ss).parts = (ss.flatMap parts).foldr consPart [] := by
  have hsteps : ∀ t ∈ (ss.flatMap parts).foldr consPart [], t.isStep = true :=
    forall_mem_foldr_consPart (fun _ => rfl) fun t ht => by
      rcases List.mem_flatMap.mp ht with ⟨s, hs, ht⟩
      exact h s hs t ht
  unfold sequence
  split
  · next hnil => rw [hnil, parts]
  · next s hone =>
      rw [hone] at hsteps ⊢
      exact parts_of_isStep (hsteps s List.mem_cons_self)
  · rfl

theorem sequence_singleton {s : Shape} (h : s.isStep = true) : sequence [s] = s := by
  cases s with
  | literal | set | bytes | look => rfl
  | empty | repetition | group | seq | alt => cases h

/-- A sequence leads where its members lead together. -/
theorem pass?_sequence {ss : List Shape} (h : ∀ s ∈ ss, s.Straight) (p : Place) :
    (sequence ss).pass? p = steps? (ss.flatMap parts) p := by
  rw [pass?, parts_sequence h, steps?_foldr_consPart]

theorem straight_sequence {ss : List Shape} (h : ∀ s ∈ ss, s.Straight) :
    (sequence ss).Straight := by
  rw [Straight, parts_sequence h]
  refine forall_mem_foldr_consPart (fun _ => rfl) fun t ht => ?_
  rcases List.mem_flatMap.mp ht with ⟨s, hs, ht⟩
  exact h s hs t ht

theorem writtenOut_sequence {ss : List Shape} (h : ∀ s ∈ ss, s.WrittenOut) :
    (sequence ss).WrittenOut := by
  rw [WrittenOut, parts_sequence fun s hs => (h s hs).straight]
  refine forall_mem_foldr_consPart (fun cs => Or.inl ⟨cs, rfl⟩) fun t ht => ?_
  rcases List.mem_flatMap.mp ht with ⟨s, hs, ht⟩
  exact h s hs t ht

end Shape

/-! ## Programs that pass and programs that select -/

namespace Seen

/-- No point of choice with the label `n` or a later one has been passed. -/
def Fresh (s : Seen) (n : Nat) : Prop :=
  ∀ label offset, n ≤ label → label < s.labels → s.contains label offset = false

theorem fresh_new (labels origin : Nat) : (⟨labels, origin, 0⟩ : Seen).Fresh 0 := by
  intro label offset _ _
  rw [contains, Nat.zero_testBit]

/-- Passing a point leaves the later ones. -/
theorem Fresh.insert {s : Seen} {n : Nat} (h : s.Fresh n) (hn : n < s.labels) (offset : Nat) :
    (s.insert n offset).Fresh (n + 1) := by
  intro label offset' hle hlt
  have hlabels : label < s.labels := hlt
  have hkey : s.key label offset' ≠ s.key n offset := by
    -- A key tells the label.
    intro heq
    have hmod := congrArg (· % s.labels) heq
    simp only [key, Nat.mul_add_mod_self_right, Nat.mod_eq_of_lt hn,
      Nat.mod_eq_of_lt hlabels] at hmod
    omega
  have hold := h label offset' (by omega) hlabels
  have hbit : (1 <<< s.key n offset).testBit (s.key label offset') = false := by
    rw [Nat.one_shiftLeft, Nat.testBit_two_pow]
    exact decide_eq_false hkey.symm
  have hnew : (s.insert n offset).contains label offset'
      = (s.bits ||| 1 <<< s.key n offset).testBit (s.key label offset') := rfl
  rw [hnew, Nat.testBit_or, hbit, Bool.or_false]
  exact hold

end Seen

namespace Code

/-- A program with one way to match: it leads where `goal` says, and what follows
    decides the rest. -/
def Passes (code : Code) (goal : Place → Option Place) : Prop :=
  ∀ shift follow t seen, run code shift follow t seen
    = match goal t.place with
      | some place => follow { t with place } seen
      | none => (none, seen)

/-- A program whose labels begin with `n` and end before `m`, and which leads where
    `goal` says if nothing follows it. -/
def Selects (code : Code) (goal : Place → Option Place) (n m : Nat) : Prop :=
  ∀ t seen, seen.Fresh n → m ≤ seen.labels →
    (run code 0 (fun t seen => (some t, seen)) t seen).1
      = (goal t.place).map fun place => { t with place }

theorem run_seq (first second : Code) (shift : Nat) (follow : Continuation) (t : Thread)
    (seen : Seen) :
    run (seq first second) shift follow t seen
      = run first shift (run second shift follow) t seen := rfl

theorem run_alt (label : Nat) (first second : Code) (shift : Nat) (follow : Continuation)
    (t : Thread) (seen : Seen) :
    run (alt label first second) shift follow t seen
      = atPoint (label + shift) t seen fun seen =>
          (run first shift follow t seen).orElse (run second shift follow t) := rfl

theorem passes_empty : Passes empty some := fun _ _ _ _ => rfl

theorem passes_literal (cs : List Char) : Passes (literal cs) (·.skipText? cs) :=
  fun _ _ _ _ => rfl

theorem passes_set (s : CharSet) : Passes (set s) (·.skipOne? s) := by
  intro shift follow t seen
  have hrun : run (set s) shift follow t seen = match t.place.rest with
      | [] => (none, seen)
      | c :: rest =>
        if s.contains c then follow { t with place := t.place.next c rest } seen
        else (none, seen) := rfl
  simp only [hrun, Place.skipOne?]
  rcases t.place.rest with _ | ⟨c, rest⟩
  · rfl
  · by_cases hc : s.contains c = true
    · simp only [if_pos hc]
    · simp only [if_neg hc]

theorem passes_look (l : Look) :
    Passes (look l) fun p => if l.holds p then some p else none := by
  intro shift follow t seen
  have hrun : run (look l) shift follow t seen
      = if l.holds t.place then follow t seen else (none, seen) := rfl
  rw [hrun]
  by_cases hl : l.holds t.place = true
  · simp only [if_pos hl]
  · simp only [if_neg hl]

theorem Passes.seq {first second : Code} {goal goal' : Place → Option Place}
    (hfirst : Passes first goal) (hsecond : Passes second goal') :
    Passes (seq first second) fun p => (goal p).bind goal' := by
  intro shift follow t seen
  rw [run_seq, hfirst]
  rcases hgoal : goal t.place with _ | place
  · simp only [hgoal, Option.bind_none]
  · simp only [hgoal, Option.bind_some]
    exact hsecond shift follow _ seen

/-- What passes selects what it leads to. -/
theorem Passes.selects {code : Code} {goal : Place → Option Place} (h : Passes code goal)
    (n m : Nat) : Selects code goal n m := by
  intro t seen _ _
  rw [h]
  rcases goal t.place with _ | place <;> rfl

theorem Passes.seq_selects {first second : Code} {goal goal' : Place → Option Place} {n m : Nat}
    (hfirst : Passes first goal) (hsecond : Selects second goal' n m) :
    Selects (Code.seq first second) (fun p => (goal p).bind goal') n m := by
  intro t seen hfresh hm
  rw [run_seq, hfirst]
  rcases hgoal : goal t.place with _ | place
  · simp only [hgoal, Option.bind_none, Option.map_none]
  · simp only [hgoal, Option.bind_some]
    exact hsecond _ seen hfresh hm

/-- A choice selects its first branch, and if that fails its second. -/
theorem Passes.alt_selects {first second : Code} {goal goal' : Place → Option Place} {n m : Nat}
    (hfirst : Passes first goal) (hsecond : Selects second goal' (n + 1) m) (hn : n < m) :
    Selects (Code.alt n first second) (fun p => (goal p).or (goal' p)) n m := by
  intro t seen hfresh hm
  have hnew : ¬seen.contains n t.place.offset = true :=
    Bool.eq_false_iff.mp (hfresh n _ (Nat.le_refl n) (by omega))
  rw [run_alt, Nat.add_zero, atPoint, if_neg hnew, hfirst]
  rcases hgoal : goal t.place with _ | place
  · -- The first branch has not passed any point of choice.
    simp only [hgoal, Option.none_or, Attempt.orElse]
    exact hsecond t _ (hfresh.insert (by omega) _) hm
  · simp only [hgoal, Option.some_or, Attempt.orElse, Option.map_some]

end Code

/-! ## The programs of shapes -/

namespace Code

open Shape

/-- The program of a step passes. It has no labels. -/
theorem passes_make_step {s : Shape} (h : s.isStep = true) (n : Nat) :
    (make s n).2 = n ∧ Passes (make s n).1 s.step? := by
  cases s with
  | literal cs => exact ⟨rfl, passes_literal cs⟩
  | set s => exact ⟨rfl, passes_set s⟩
  | bytes s => exact ⟨rfl, passes_set s⟩
  | look l => exact ⟨rfl, passes_look l⟩
  | empty | repetition | group | seq | alt => cases h

theorem passes_makeSeq {ss : List Shape} (h : ∀ s ∈ ss, s.isStep = true) (n : Nat) :
    (makeSeq ss n).2 = n ∧ Passes (makeSeq ss n).1 (steps? ss) := by
  induction ss generalizing n with
  | nil => exact ⟨rfl, passes_empty⟩
  | cons s ss ih =>
      rw [List.forall_mem_cons] at h
      have hs := passes_make_step h.1 n
      cases ss with
      | nil =>
          refine ⟨hs.1, ?_⟩
          rw [funext (steps?_singleton s)]
          exact hs.2
      | cons t ts =>
          have hrest := ih h.2 (make s n).2
          exact ⟨hrest.1.trans hs.1, hs.2.seq hrest.2⟩

/-- The program of a straight shape passes. -/
theorem passes_make {s : Shape} (h : s.Straight) (n : Nat) :
    (make s n).2 = n ∧ Passes (make s n).1 s.pass? := by
  cases s with
  | empty => exact ⟨rfl, passes_empty⟩
  | seq ps => exact passes_makeSeq h n
  | literal | set | bytes | look =>
      have hstep := h _ List.mem_cons_self
      rw [funext (pass?_of_isStep hstep)]
      exact passes_make_step hstep n
  | repetition | group | alt => cases h _ List.mem_cons_self

theorem make_sequence (ss : List Shape) :
    make (Shape.sequence ss) = makeSeq ((ss.flatMap parts).foldr consPart []) := by
  unfold Shape.sequence
  split
  · next hnil => rw [hnil]; rfl
  · next s hone => rw [hone]; rfl
  · rfl

/-- The program of a choice selects the first branch that leads anywhere. -/
theorem selects_makeAlt {bs : List Shape} (hne : bs ≠ []) (h : ∀ b ∈ bs, b.Straight) (n : Nat) :
    n ≤ (makeAlt bs n).2 ∧
      Selects (makeAlt bs n).1 (choose? bs) n (makeAlt bs n).2 := by
  induction bs generalizing n with
  | nil => exact absurd rfl hne
  | cons b bs ih =>
      rw [List.forall_mem_cons] at h
      have hb := passes_make h.1
      cases bs with
      | nil =>
          refine ⟨Nat.le_of_eq (hb n).1.symm, ?_⟩
          rw [choose?_singleton]
          exact (hb n).2.selects n _
      | cons c cs =>
          have hrest := ih (List.cons_ne_nil c cs) h.2 (make b (n + 1)).2
          rw [(hb (n + 1)).1] at hrest
          have hmake : makeAlt (b :: c :: cs) n
              = (.alt n (make b (n + 1)).1 (makeAlt (c :: cs) (n + 1)).1,
                (makeAlt (c :: cs) (n + 1)).2) := by
            simp only [makeAlt, (hb (n + 1)).1]
          rw [hmake]
          refine ⟨Nat.le_of_succ_le hrest.1, ?_⟩
          rw [funext (choose?_cons b (c :: cs))]
          exact (hb (n + 1)).2.alt_selects hrest.2 (Nat.lt_of_succ_le hrest.1)

/-- A program with one way to match may stand in front of one that selects. -/
theorem selects_makeSeq {ss : List Shape} (h : ∀ s ∈ ss, s.isStep = true) {x : Shape}
    {goal : Place → Option Place}
    (hx : ∀ n, Selects (make x n).1 goal n (make x n).2) (n : Nat) :
    Selects (makeSeq (ss ++ [x]) n).1 (fun p => (steps? ss p).bind goal) n
      (makeSeq (ss ++ [x]) n).2 := by
  induction ss generalizing n with
  | nil => exact hx n
  | cons s ss ih =>
      rw [List.forall_mem_cons] at h
      have hs := passes_make_step h.1 n
      have hrest := ih h.2 n
      have hmake : makeSeq (s :: ss ++ [x]) n
          = (.seq (make s n).1 (makeSeq (ss ++ [x]) n).1, (makeSeq (ss ++ [x]) n).2) := by
        rcases hlist : ss ++ [x] with _ | ⟨t, ts⟩
        · exact absurd hlist (by simp)
        · rw [List.cons_append, hlist]
          simp only [makeSeq, thenMake, hs.1]
      have hgoal : (fun p => (steps? (s :: ss) p).bind goal)
          = fun p => (s.step? p).bind fun q => (steps? ss q).bind goal := by
        funext p
        rw [steps?_cons, Option.bind_assoc]
      rw [hmake, hgoal]
      exact hs.2.seq_selects hrest

end Code

end Highlighter
