import Highlighter.Proofs.Regex.Preference
import Highlighter.Proofs.Unicode.Ranges

/-!
# Choices in normal form

Why the normal form of a choice does not show.

A choice is not kept as it is written. A choice between single characters becomes a
set, and what all branches begin with is moved in front of the choice. Where the
branches have one way to match each, neither changes where the choice leads.
Characters are told apart by what comes next, so at most one of them matches and their
order does not matter. And a beginning with one way to match decides the same for all
branches, so it may as well decide once.

Branches that are written out, with characters and assertions and nothing else, stay
written out when their beginning is taken away. Sets are left out because the union of
sets is the set of their members only if their ranges are in order.

## Theorems

* `Shape.choiceOf_cases`: A choice becomes one step, or stays a choice.
* `Shape.commonStart_eq_some`: What all branches begin with.
* `Shape.choose?_withoutStart`: Taking a common beginning to the front.
* `Code.selects_make_choice`: The program of a choice selects the first branch that
  leads anywhere.
* `Code.matchAt?_choice`: So a match of a choice is one of that branch.
-/

namespace Highlighter

namespace Place

theorem skipText?_singleton (c : Char) (p : Place) :
    p.skipText? [c] = skipOne? (.single c) p := by
  rw [skipText?, skipOne?]
  rcases p.rest with _ | ⟨d, rest⟩
  · rfl
  · simp only [CharSet.contains_single, beq_iff_eq]
    rfl

theorem skipOne?_congr {s t : CharSet} (h : ∀ c, s.contains c = t.contains c) :
    skipOne? s = skipOne? t := by
  funext p
  unfold skipOne?
  split
  · rfl
  · rw [h]

end Place

namespace Shape

/-! ## Branches -/

theorem WrittenOut.branches_eq {s : Shape} (h : s.WrittenOut) : s.branches = [s] := by
  cases s with
  | alt bs => rcases h _ List.mem_cons_self with ⟨_, hp⟩ | ⟨_, hp⟩ <;> cases hp
  | empty | literal | set | bytes | look | repetition | group | seq => rfl

theorem flatMap_branches {bs : List Shape} (h : ∀ b ∈ bs, b.WrittenOut) :
    bs.flatMap branches = bs := by
  induction bs with
  | nil => rfl
  | cons b bs ih =>
      rw [List.forall_mem_cons] at h
      rw [List.flatMap_cons, h.1.branches_eq, ih h.2]
      rfl

theorem flatMap_parts {ss : List Shape} (h : ∀ s ∈ ss, s.isStep = true) :
    ss.flatMap parts = ss := by
  induction ss with
  | nil => rfl
  | cons s ss ih =>
      rw [List.forall_mem_cons] at h
      rw [List.flatMap_cons, parts_of_isStep h.1, ih h.2]
      rfl

theorem choice_singleton {s : Shape} (h : s.WrittenOut) : choice [s] = s := by
  simp only [choice, List.flatMap_singleton, h.branches_eq]
  rfl

/-! ## Choices between single characters -/

theorem asChars?_eq_some {bs : List Shape} {cs : List Char} (h : asChars? bs = some cs) :
    bs = cs.map fun c => literal [c] := by
  fun_induction asChars? bs generalizing cs with
  | case1 =>
      rw [Option.some.injEq] at h
      rw [← h]
      rfl
  | case2 c ss ih =>
      rcases Option.map_eq_some_iff.mp h with ⟨ds, hds, hcs⟩
      rw [← hcs, List.map_cons, ih hds]
  | case3 => cases h

theorem asSets?_of_writtenOut {b : Shape} (h : b.WrittenOut) (bs : List Shape) :
    asSets? (b :: bs) = none := by
  cases b with
  | set s => rcases h _ List.mem_cons_self with ⟨_, hp⟩ | ⟨_, hp⟩ <;> cases hp
  | bytes s => rcases h _ List.mem_cons_self with ⟨_, hp⟩ | ⟨_, hp⟩ <;> cases hp
  | empty | literal | look | repetition | group | seq | alt => rfl

/-- The members of a union of characters are the characters. -/
theorem contains_unions_single (cs : List Char) (d : Char) :
    (CharSet.unions (cs.map .single)).contains d = cs.any (· == d) := by
  have hinOrder : ∀ s ∈ cs.map CharSet.single, CharSet.InOrder s.ranges := by
    intro s hs
    rcases List.mem_map.mp hs with ⟨c, _, rfl⟩
    exact CharSet.inOrder_single c
  rw [CharSet.contains_unions hinOrder, List.any_map]
  exact congrArg (List.any cs) (funext fun c => CharSet.contains_single c d)

/-- A set with a member leads behind the next character if that is a member. -/
theorem ofSet_leads {s : CharSet} (hmember : ∃ c, s.contains c = true) :
    (ofSet true s).isStep = true ∧ (ofSet true s).step? = Place.skipOne? s := by
  rcases hmember with ⟨e, he⟩
  unfold ofSet
  split
  · next c hsingle =>
      refine ⟨rfl, funext fun p => ?_⟩
      rw [step?, Place.skipText?_singleton]
      refine congrFun (Place.skipOne?_congr fun d => ?_) p
      rw [CharSet.contains_single, Bool.eq_iff_iff, beq_iff_eq]
      -- The one member is `e`, and so is every other one.
      constructor
      · rintro rfl
        rwa [CharSet.eq_of_single? hsingle he]
      · exact CharSet.eq_of_single? hsingle
  · split
    · next hempty =>
        rw [CharSet.contains_of_isEmpty hempty] at he
        cases he
    · exact ⟨rfl, rfl⟩

/-- Of several characters at most one comes next. -/
theorem choose?_literals (cs : List Char) :
    choose? (cs.map fun c => literal [c]) = Place.skipOne? (.unions (cs.map .single)) := by
  funext p
  induction cs with
  | nil =>
      unfold Place.skipOne?
      split <;> rfl
  | cons c cs ih =>
      rw [List.map_cons, choose?_cons, ih, pass?_of_isStep rfl, step?, Place.skipText?_singleton]
      unfold Place.skipOne?
      rcases p.rest with _ | ⟨d, rest⟩
      · rfl
      · simp only [contains_unions_single, CharSet.contains_single, List.any_cons]
        by_cases hc : (c == d) = true
        · simp only [hc, if_true, Option.some_or, Bool.true_or]
        · simp only [hc, Bool.false_or, Bool.false_eq_true, if_false, Option.none_or]

/-- A choice becomes one step, or stays a choice. -/
theorem choiceOf_cases {bs : List Shape} (hne : bs ≠ []) (h : ∀ b ∈ bs, b.WrittenOut) :
    ((choiceOf bs).Straight ∧ (choiceOf bs).pass? = choose? bs) ∨ choiceOf bs = alt bs := by
  unfold choiceOf
  split
  · exact absurd rfl hne
  · next b =>
      rw [List.forall_mem_singleton] at h
      exact Or.inl ⟨h.straight, (choose?_singleton b).symm⟩
  · split
    · next cs hcs =>
        have hbs := asChars?_eq_some hcs
        have hmember : ∃ c, (CharSet.unions (cs.map .single)).contains c = true := by
          rcases cs with _ | ⟨c, cs⟩
          · exact absurd hbs hne
          · exact ⟨c, by rw [contains_unions_single, List.any_cons, beq_self_eq_true, Bool.true_or]⟩
        rcases ofSet_leads hmember with ⟨hstep, hleads⟩
        refine Or.inl ⟨straight_of_isStep hstep, ?_⟩
        rw [funext (pass?_of_isStep hstep), hleads, hbs, choose?_literals]
    · rcases bs with _ | ⟨b, bs⟩
      · exact absurd rfl hne
      · rw [asSets?_of_writtenOut (h b List.mem_cons_self) bs]
        exact Or.inr rfl

/-! ## Common beginnings -/

/-- Two lists both begin with what they have in common. -/
theorem commonParts_append (ps qs : List Shape) :
    (∃ rest, ps = commonParts ps qs ++ rest) ∧ ∃ rest, qs = commonParts ps qs ++ rest := by
  induction ps generalizing qs with
  | nil => exact ⟨⟨[], by rfl⟩, qs, by rfl⟩
  | cons p ps ih =>
      rcases qs with _ | ⟨q, qs⟩
      · exact ⟨⟨p :: ps, rfl⟩, [], rfl⟩
      · rw [commonParts]
        by_cases hpq : p = q
        · rcases ih qs with ⟨⟨rest, hps⟩, rest', hqs⟩
          rw [if_pos hpq]
          refine ⟨⟨rest, ?_⟩, rest', ?_⟩
          · rw [List.cons_append, ← hps]
          · rw [List.cons_append, ← hqs, hpq]
        · rw [if_neg hpq]
          exact ⟨⟨p :: ps, rfl⟩, q :: qs, rfl⟩

/-- All branches begin with their common beginning. -/
theorem commonStart_eq_some {bs : List Shape} {start : List Shape}
    (h : commonStart bs = some start) : ∀ b ∈ bs, ∃ rest, b = seq (start ++ rest) := by
  fun_induction commonStart bs generalizing start with
  | case1 => cases h
  | case2 ps =>
      rw [Option.some.injEq] at h
      rw [List.forall_mem_singleton]
      exact ⟨[], by rw [h, List.append_nil]⟩
  | case3 ps bs _ ih =>
      rcases Option.map_eq_some_iff.mp h with ⟨qs, hqs, hstart⟩
      rcases commonParts_append ps qs with ⟨⟨rest, hps⟩, rest', hqs'⟩
      rw [hstart] at hps hqs'
      refine List.forall_mem_cons.mpr ⟨⟨rest, by rw [← hps]⟩, fun b hb => ?_⟩
      rcases ih hqs b hb with ⟨rest'', rfl⟩
      exact ⟨rest' ++ rest'', by rw [← List.append_assoc, ← hqs']⟩
  | case4 => cases h

/-- The parts of a sequence that is written out are steps. -/
theorem isStep_of_append {start rest : List Shape} (h : (seq (start ++ rest)).WrittenOut) :
    (∀ s ∈ start, s.isStep = true) ∧ ∀ s ∈ rest, s.isStep = true := by
  have hsteps : ∀ s ∈ start ++ rest, s.isStep = true := h.straight
  exact List.forall_mem_append.mp hsteps

theorem withoutStart_append (start rest : List Shape) :
    withoutStart start.length (seq (start ++ rest)) = sequence rest := by
  rw [withoutStart, List.drop_left]

theorem writtenOut_withoutStart {start rest : List Shape} (h : (seq (start ++ rest)).WrittenOut) :
    (withoutStart start.length (seq (start ++ rest))).WrittenOut := by
  rw [withoutStart_append]
  refine writtenOut_sequence fun s hs => ?_
  rw [WrittenOut, parts_of_isStep ((isStep_of_append h).2 s hs), List.forall_mem_singleton]
  exact h s (List.mem_append_right start hs)

/-- A branch leads where its beginning and its rest lead together. -/
theorem pass?_withoutStart {start rest : List Shape} (h : (seq (start ++ rest)).WrittenOut)
    (p : Place) :
    (seq (start ++ rest)).pass? p
      = (steps? start p).bind (withoutStart start.length (seq (start ++ rest))).pass? := by
  have hrest := (isStep_of_append h).2
  rw [withoutStart_append, pass?, parts, steps?_append]
  refine congrArg (steps? start p).bind (funext fun q => ?_)
  rw [pass?_sequence (fun s hs => straight_of_isStep (hrest s hs)), flatMap_parts hrest]

/-- A beginning with one way to match can be taken to the front of a choice. -/
theorem choose?_withoutStart {start : List Shape} {bs : List Shape}
    (hstart : ∀ b ∈ bs, ∃ rest, b = seq (start ++ rest)) (h : ∀ b ∈ bs, b.WrittenOut)
    (p : Place) :
    choose? bs p = (steps? start p).bind (choose? (bs.map (withoutStart start.length))) := by
  induction bs with
  | nil =>
      rcases steps? start p with _ | q <;> rfl
  | cons b bs ih =>
      rw [List.forall_mem_cons] at hstart h
      rcases hstart.1 with ⟨rest, rfl⟩
      rw [choose?_cons, pass?_withoutStart h.1, ih hstart.2 h.2]
      rcases steps? start p with _ | q
      · rfl
      · rw [Option.bind_some, Option.bind_some, Option.bind_some, List.map_cons, choose?_cons]

end Shape

/-! ## The program of a choice -/

namespace Code

open Shape

/-- A choice selects in normal form too, unless its normal form is a sequence. -/
theorem selects_make_choiceOf {bs : List Shape} (hne : bs ≠ []) (h : ∀ b ∈ bs, b.WrittenOut)
    (n : Nat) : Selects (make (choiceOf bs) n).1 (choose? bs) n (make (choiceOf bs) n).2 := by
  rcases choiceOf_cases hne h with ⟨hstraight, hpass⟩ | halt
  · rw [← hpass]
    exact (passes_make hstraight n).2.selects n _
  · rw [halt, make]
    exact (selects_makeAlt hne (fun b hb => (h b hb).straight) n).2

/-- A choice selects behind a beginning with one way to match. -/
theorem selects_make_started {start rests : List Shape} (hstart : ∀ s ∈ start, s.isStep = true)
    (hne : rests ≠ []) (h : ∀ r ∈ rests, r.WrittenOut) (n : Nat) :
    Selects (make (Shape.sequence (start ++ [choiceOf rests])) n).1
      (fun p => (steps? start p).bind (choose? rests)) n
      (make (Shape.sequence (start ++ [choiceOf rests])) n).2 := by
  rcases choiceOf_cases hne h with ⟨hstraight, hpass⟩ | halt
  · -- The choice has become one more step.
    have hmembers : ∀ s ∈ start ++ [choiceOf rests], s.Straight := by
      refine List.forall_mem_append.mpr ⟨fun s hs => straight_of_isStep (hstart s hs), ?_⟩
      exact List.forall_mem_singleton.mpr hstraight
    have hgoal : (Shape.sequence (start ++ [choiceOf rests])).pass?
        = fun p => (steps? start p).bind (choose? rests) := by
      funext p
      rw [pass?_sequence hmembers, List.flatMap_append, flatMap_parts hstart, steps?_append,
        List.flatMap_singleton, ← hpass]
      rfl
    rw [← hgoal]
    exact (passes_make (straight_sequence hmembers) n).2.selects n _
  · have hparts : ((start ++ [Shape.alt rests]).flatMap parts).foldr consPart []
        = start.foldr consPart [] ++ [Shape.alt rests] := by
      rw [List.flatMap_append, flatMap_parts hstart]
      exact foldr_consPart_append (fun _ => by simp only [ne_eq, reduceCtorEq, not_false_eq_true])
        start
    rw [halt, make_sequence, hparts, ← funext (steps?_foldr_consPart start)]
    refine selects_makeSeq (forall_mem_foldr_consPart (fun _ => rfl) hstart) (fun n => ?_) n
    rw [make]
    exact (selects_makeAlt hne (fun r hr => (h r hr).straight) n).2

/-- A choice selects if its common beginning has been taken to the front. -/
theorem selects_make_commonStart {bs start : List Shape} (hne : bs ≠ [])
    (h : ∀ b ∈ bs, b.WrittenOut) (hcommon : commonStart bs = some start) (n : Nat) :
    let rests := (bs.map (withoutStart start.length)).flatMap branches
    Selects (make (Shape.sequence (start ++ [choiceOf rests])) n).1 (choose? bs) n
      (make (Shape.sequence (start ++ [choiceOf rests])) n).2 := by
  have hstart := commonStart_eq_some hcommon
  have hsteps : ∀ s ∈ start, s.isStep = true := by
    rcases List.exists_mem_of_ne_nil bs hne with ⟨b, hb⟩
    rcases hstart b hb with ⟨rest, rfl⟩
    exact (isStep_of_append (h _ hb)).1
  have hrests : ∀ r ∈ bs.map (withoutStart start.length), r.WrittenOut := by
    intro r hr
    rcases List.mem_map.mp hr with ⟨b, hb, rfl⟩
    rcases hstart b hb with ⟨rest, rfl⟩
    exact writtenOut_withoutStart (h _ hb)
  simp only [flatMap_branches hrests, funext (choose?_withoutStart hstart h)]
  exact selects_make_started hsteps (mt List.map_eq_nil_iff.mp hne) hrests n

/-- The program of a choice selects the first branch that leads anywhere. -/
theorem selects_make_choice {bs : List Shape} (hne : bs ≠ []) (h : ∀ b ∈ bs, b.WrittenOut)
    (n : Nat) : Selects (make (choice bs) n).1 (choose? bs) n (make (choice bs) n).2 := by
  simp only [choice, flatMap_branches h]
  split
  · split
    · next hcommon => exact selects_make_commonStart hne h hcommon n
    · exact selects_make_choiceOf hne h n
  · exact selects_make_choiceOf hne h n

/-- A match of a choice is one of the first branch that leads anywhere. -/
theorem matchAt?_choice {bs : List Shape} (hne : bs ≠ []) (h : ∀ b ∈ bs, b.WrittenOut)
    (place : Place) :
    (ofShape (choice bs)).1.matchAt? (ofShape (choice bs)).2 place
      = (choose? bs place).map fun last => { place := last } :=
  selects_make_choice hne h 0 { place } _ (Seen.fresh_new _ _) (Nat.le_refl _)

end Code

end Highlighter
