import Highlighter.Proofs.Offsets
import Highlighter.Regex

/-!
# Where a match lies

What a regular expression may report, whatever its program.

A program is matched together with what follows it, so a success is never its
own: it comes from the continuation, which has been called further on in the
text. `Forward` says this of an attempt, and `forward_run` says it of every
program. How far on is told by `Leads`. The text between two threads is a piece
of what lay ahead of the first, and each group that has been noted in between
covers some characters of that piece. Nothing about the order of preference or
the points that have been passed goes into this; they decide which success is
found and not what it looks like.

The proof is an induction on the program. Its loops have a fuel or a count of
their own, and each of them is forward if its body is.

A match begins where it was asked for, and its place and the places of its
groups are cut out of the source between characters. `Match.Fits` collects
these facts, and `Regex.findAt?_fits` is the only statement of this module that
a matcher needs.

## Main definitions

* `Covers`: a span of some characters of a text.
* `Thread.Leads`: a thread is further on than another one.
* `Code.Forward`: an attempt that succeeds by what follows it.
* `Match.Fits`: a match lies in a source, and its groups lie in the match.

## Theorems

* `Covers.isValidIn`: What covers a part of a source is a valid span.
* `Thread.Leads.trans`: Being further on is transitive.
* `Code.forward_rounds`, `Code.forward_inRow`, `Code.forward_nested`: Loops are
  forward if their body is.
* `Code.forward_run`: Every program is forward.
* `Place.seek?_eq_some`: The place at an offset cuts the source there.
* `Regex.findAt?_fits`: Every match fits.
-/

namespace Highlighter

/-! ## Spans of a piece of text -/

/-- A span covers some characters of a text that begins at an offset. -/
def Covers (origin : Nat) (text : List Char) (span : Span) : Prop :=
  ∃ before middle after, text = before ++ (middle ++ after) ∧
    span.start = origin + byteLength before ∧ span.stop = span.start + byteLength middle

theorem Covers.append {origin : Nat} {text : List Char} {span : Span} (h : Covers origin text span)
    (more : List Char) : Covers origin (text ++ more) span := by
  rcases h with ⟨before, middle, after, htext, hstart, hstop⟩
  refine ⟨before, middle, after ++ more, ?_, hstart, hstop⟩
  rw [htext, List.append_assoc, List.append_assoc]

theorem Covers.prepend {origin : Nat} {text : List Char} {span : Span} (front : List Char)
    (h : Covers (origin + byteLength front) text span) : Covers origin (front ++ text) span := by
  rcases h with ⟨before, middle, after, htext, hstart, hstop⟩
  refine ⟨front ++ before, middle, after, ?_, ?_, hstop⟩
  · rw [htext, List.append_assoc]
  · rw [hstart, byteLength_append, Nat.add_assoc]

/-- What covers a text stays between its two ends. -/
theorem Covers.bounds {origin : Nat} {text : List Char} {span : Span}
    (h : Covers origin text span) :
    origin ≤ span.start ∧ span.stop ≤ origin + byteLength text := by
  rcases h with ⟨before, middle, after, htext, hstart, hstop⟩
  rw [htext, byteLength_append, byteLength_append]
  omega

/-- What covers a part of a source is a valid span. -/
theorem Covers.isValidIn {source : String} {origin : Nat} {front text rest : List Char}
    {span : Span} (h : Covers origin text span)
    (hcut : CutAt source origin front (text ++ rest)) : span.isValidIn source = true := by
  rcases h with ⟨before, middle, after, htext, hstart, hstop⟩
  have hmoved : CutAt source origin front (before ++ (middle ++ (after ++ rest))) := by
    rwa [htext, List.append_assoc, List.append_assoc] at hcut
  rw [isValidIn_iff, hstart]
  exact ⟨front ++ before, middle, after ++ rest, hmoved.move, by rw [hstop, hstart]⟩

/-! ## Places in a source -/

theorem Place.skipText?_eq_some (cs : List Char) (p q : Place) (h : p.skipText? cs = some q) :
    p.rest = cs ++ q.rest ∧ q.offset = p.offset + byteLength cs := by
  induction cs generalizing p with
  | nil =>
      simp only [skipText?, Option.some.injEq] at h
      rw [h]
      exact ⟨rfl, rfl⟩
  | cons c cs ih =>
      rw [skipText?] at h
      rcases hrest : p.rest with _ | ⟨d, rest⟩
      · simp only [hrest, reduceCtorEq] at h
      · simp only [hrest] at h
        by_cases hc : c = d
        · rw [if_pos hc] at h
          rcases ih _ h with ⟨htext, hoffset⟩
          simp only [next] at htext hoffset
          rw [htext, hc, hoffset, byteLength_cons, List.cons_append, Nat.add_assoc]
          exact ⟨rfl, rfl⟩
        · rw [if_neg hc] at h
          simp only [reduceCtorEq] at h

theorem Place.skipBytes?_eq_some (cs : List Char) (n : Nat) (p q : Place) (hp : p.rest = cs)
    (h : Place.skipBytes? cs n p = some q) :
    ∃ piece, cs = piece ++ q.rest ∧ byteLength piece = n ∧ q.offset = p.offset + n := by
  fun_induction Place.skipBytes? cs n p with
  | case1 cs p =>
      rw [Option.some.injEq] at h
      rw [← h]
      exact ⟨[], by rw [hp, List.nil_append], byteLength_nil, rfl⟩
  | case2 n p => simp only [reduceCtorEq] at h
  | case3 c cs n p hc ih =>
      rcases ih rfl h with ⟨piece, htext, hlen, hoffset⟩
      refine ⟨c :: piece, by rw [List.cons_append, ← htext], ?_, ?_⟩
      · rw [byteLength_cons, hlen]
        omega
      · simp only [hoffset, next]
        omega
  | case4 c cs n p hc => simp only [reduceCtorEq] at h

/-- The place at an offset cuts the source there. -/
theorem Place.seek?_eq_some (source : String) (offset : Nat) (p : Place)
    (h : Place.seek? source.toList offset = some p) :
    p.offset = offset ∧ ∃ before, CutAt source offset before p.rest := by
  rcases skipBytes?_eq_some _ _ (Place.start source.toList) p rfl h with
    ⟨before, hwhole, hlen, hoffset⟩
  refine ⟨?_, before, hwhole, hlen⟩
  rw [hoffset, start, Nat.zero_add]

/-! ## Threads that lead on -/

/-- A thread is further on than another one: some text has been passed, and the
    groups that have been noted on the way cover parts of it. -/
structure Thread.Leads (t : Thread) (piece : List Char) (t' : Thread) : Prop where
  /-- The text that has been passed lay ahead. -/
  rest : t.place.rest = piece ++ t'.place.rest
  /-- The offset has moved over it. -/
  offset : t'.place.offset = t.place.offset + byteLength piece
  /-- The new groups lie in it. -/
  groups : ∃ noted, t'.groups = noted ++ t.groups ∧
    ∀ g ∈ noted, Covers t.place.offset piece g.2

theorem Thread.Leads.refl (t : Thread) : t.Leads [] t where
  rest := rfl
  offset := rfl
  groups := ⟨[], rfl, fun _ hg => absurd hg List.not_mem_nil⟩

theorem Thread.Leads.trans {t t' t'' : Thread} {piece piece' : List Char} (h : t.Leads piece t')
    (h' : t'.Leads piece' t'') : t.Leads (piece ++ piece') t'' where
  rest := by rw [h.rest, h'.rest, List.append_assoc]
  offset := by rw [h'.offset, h.offset, byteLength_append, Nat.add_assoc]
  groups := by
    rcases h.groups with ⟨noted, hgroups, hcovers⟩
    rcases h'.groups with ⟨noted', hgroups', hcovers'⟩
    refine ⟨noted' ++ noted, by rw [hgroups', hgroups, List.append_assoc], fun g hg => ?_⟩
    rcases List.mem_append.mp hg with hg | hg
    · -- A group of the second part lies behind the first one.
      have hlater := hcovers' g hg
      rw [h.offset] at hlater
      exact hlater.prepend piece
    · exact (hcovers g hg).append piece'

/-- Moving on without noting a group. -/
theorem Thread.Leads.of_place {t : Thread} {piece : List Char} {place : Place}
    (hrest : t.place.rest = piece ++ place.rest)
    (hoffset : place.offset = t.place.offset + byteLength piece) :
    t.Leads piece { t with place } where
  rest := hrest
  offset := hoffset
  groups := ⟨[], rfl, fun _ hg => absurd hg List.not_mem_nil⟩

/-- Noting what has been passed as a group. -/
theorem Thread.Leads.note {t t' : Thread} {piece : List Char} (h : t.Leads piece t')
    (index : Nat) :
    t.Leads piece { t' with
      groups := (index, ⟨t.place.offset, t'.place.offset⟩) :: t'.groups } where
  rest := h.rest
  offset := h.offset
  groups := by
    rcases h.groups with ⟨noted, hgroups, hcovers⟩
    refine ⟨_ :: noted, by rw [hgroups, List.cons_append], ?_⟩
    refine List.forall_mem_cons.mpr ⟨⟨[], piece, [], ?_, rfl, h.offset⟩, hcovers⟩
    rw [List.nil_append, List.append_nil]

namespace Code

/-! ## Attempts that go forward -/

/-- An attempt that succeeds owes it to what follows, which has been called with
    a thread further on. -/
def Forward (attempt : Continuation → Thread → Seen → Attempt) : Prop :=
  ∀ follow t seen last, (attempt follow t seen).1 = some last →
    ∃ piece t' seen', t.Leads piece t' ∧ (follow t' seen').1 = some last

/-- If two attempts are made, one of them has succeeded. -/
theorem orElse_eq_some {first : Attempt} {second : Seen → Attempt} {last : Thread}
    (h : (first.orElse second).1 = some last) :
    first.1 = some last ∨ ∃ seen, (second seen).1 = some last := by
  rcases first with ⟨found, seen⟩
  cases found with
  | none => exact Or.inr ⟨seen, h⟩
  | some t => exact Or.inl h

/-- At a point of choice an attempt is made or none. -/
theorem atPoint_eq_some {label : Nat} {t : Thread} {seen : Seen} {go : Seen → Attempt}
    {last : Thread} (h : (atPoint label t seen go).1 = some last) :
    ∃ seen', (go seen').1 = some last := by
  unfold atPoint at h
  by_cases hseen : seen.contains label t.place.offset = true
  · rw [if_pos hseen] at h
    simp only [reduceCtorEq] at h
  · rw [if_neg hseen] at h
    exact ⟨_, h⟩

/-- An attempt that goes on with another one is forward if both are. -/
theorem Forward.comp {first second : Continuation → Thread → Seen → Attempt}
    (hfirst : Forward first) (hsecond : Forward second) :
    Forward fun follow => first (second follow) := by
  intro follow t seen last h
  rcases hfirst _ t seen last h with ⟨piece, t', seen', hleads, h'⟩
  rcases hsecond _ t' seen' last h' with ⟨piece', t'', seen'', hleads', h''⟩
  exact ⟨piece ++ piece', t'', seen'', hleads.trans hleads', h''⟩

/-- Calling what follows at once goes forward. -/
theorem forward_here : Forward fun follow => follow := by
  intro follow t seen last h
  exact ⟨[], t, seen, .refl t, h⟩

/-- A choice between two attempts is forward if both are, whichever of them is
    preferred. -/
theorem Forward.choose {first second : Continuation → Thread → Seen → Attempt}
    (hfirst : Forward first) (hsecond : Forward second) (label : Nat) :
    Forward fun follow t seen => atPoint label t seen fun seen =>
      (first follow t seen).orElse (second follow t) := by
  intro follow t seen last h
  rcases atPoint_eq_some h with ⟨seen', h'⟩
  rcases orElse_eq_some h' with h' | ⟨seen'', h''⟩
  · exact hfirst follow t seen' last h'
  · exact hsecond follow t seen'' last h''

/-- The rounds of a loop are forward if its body is. -/
theorem forward_rounds {body : Continuation → Thread → Seen → Attempt} (hbody : Forward body)
    (label : Nat) (greedy : Bool) (fuel : Nat) :
    Forward fun follow => rounds label greedy body follow fuel := by
  induction fuel with
  | zero =>
      intro follow t seen last h
      simp only [rounds, reduceCtorEq] at h
  | succ n ih =>
      -- Another round and the loop again, against leaving the loop.
      have hagain := hbody.comp ih
      intro follow t seen last h
      cases greedy with
      | true => exact hagain.choose forward_here label follow t seen last h
      | false => exact forward_here.choose hagain label follow t seen last h

/-- Copies in a row are forward if the body is. -/
theorem forward_inRow {body : Nat → Continuation → Thread → Seen → Attempt}
    (hbody : ∀ shift, Forward (body shift)) (stride count shift : Nat) :
    Forward fun follow => inRow body stride follow count shift := by
  induction count generalizing shift with
  | zero => exact forward_here
  | succ n ih => exact (hbody shift).comp (ih (shift + stride))

/-- Copies inside each other are forward if the body is. -/
theorem forward_nested {body : Nat → Continuation → Thread → Seen → Attempt}
    (hbody : ∀ shift, Forward (body shift)) (label : Nat) (greedy : Bool)
    (stride count shift : Nat) :
    Forward fun follow => nested label greedy body stride follow count shift := by
  induction count generalizing shift with
  | zero => exact forward_here
  | succ n ih =>
      have hmore := (hbody shift).comp (ih (shift + stride))
      intro follow t seen last h
      cases greedy with
      | true => exact hmore.choose forward_here (label + shift) follow t seen last h
      | false => exact forward_here.choose hmore (label + shift) follow t seen last h

/-- Every program is forward. -/
theorem forward_run (code : Code) (shift : Nat) : Forward (run code shift) := by
  induction code generalizing shift with
  | empty => exact forward_here
  | literal cs =>
      intro follow t seen last h
      rw [run] at h
      rcases hskip : t.place.skipText? cs with _ | place
      · simp only [hskip, reduceCtorEq] at h
      · simp only [hskip] at h
        rcases Place.skipText?_eq_some cs t.place place hskip with ⟨hrest, hoffset⟩
        exact ⟨cs, _, seen, .of_place hrest hoffset, h⟩
  | set s =>
      intro follow t seen last h
      rw [run] at h
      rcases hrest : t.place.rest with _ | ⟨c, rest⟩
      · simp only [hrest, reduceCtorEq] at h
      · simp only [hrest] at h
        by_cases hc : s.contains c = true
        · rw [if_pos hc] at h
          have hpassed : t.place.rest = [c] ++ (t.place.next c rest).rest := hrest
          exact ⟨[c], _, seen, .of_place hpassed rfl, h⟩
        · rw [if_neg hc] at h
          simp only [reduceCtorEq] at h
  | look l =>
      intro follow t seen last h
      rw [run] at h
      by_cases hl : l.holds t.place = true
      · rw [if_pos hl] at h
        exact forward_here follow t seen last h
      · rw [if_neg hl] at h
        simp only [reduceCtorEq] at h
  | group index body ih =>
      -- The continuation of the body notes the group before it goes on.
      intro follow t seen last h
      rcases ih shift _ t seen last h with ⟨piece, t', seen', hleads, h'⟩
      exact ⟨piece, _, seen', hleads.note index, h'⟩
  | seq first second ihfirst ihsecond => exact (ihfirst shift).comp (ihsecond shift)
  | alt label first second ihfirst ihsecond =>
      exact (ihfirst shift).choose (ihsecond shift) (label + shift)
  | star label greedy body ih =>
      intro follow t seen last h
      exact forward_rounds (ih shift) (label + shift) greedy _ follow t seen last h
  | plus label greedy body ih =>
      intro follow t seen last h
      exact (ih shift).comp (forward_rounds (ih shift) (label + shift) greedy
        (t.place.rest.length + 2)) follow t seen last h
  | times count stride body ih => exact forward_inRow ih stride count shift
  | upTo label count stride greedy body ih => exact forward_nested ih label greedy stride count shift

/-- A match leads on from the place where it was asked for. -/
theorem matchAt?_leads {code : Code} {labels : Nat} {place : Place} {last : Thread}
    (h : code.matchAt? labels place = some last) :
    ∃ piece, (⟨place, []⟩ : Thread).Leads piece last := by
  rcases forward_run code 0 _ _ _ last h with ⟨piece, t', seen', hleads, hlast⟩
  -- Nothing follows the program, so its thread is the last one.
  rw [Option.some.injEq] at hlast
  rw [← hlast]
  exact ⟨piece, hleads⟩

end Code

/-! ## Matches -/

/-- What is known of a match at an offset of a source. -/
structure Match.Fits (source : String) (offset : Nat) (found : Match) : Prop where
  /-- It begins where it was asked for. -/
  start_eq : found.span.start = offset
  /-- It is a piece of the source. -/
  valid : found.span.isValidIn source = true
  /-- Its groups lie inside it and are pieces of the source. -/
  group : ∀ index span, found.group? index = some span →
    offset ≤ span.start ∧ span.stop ≤ found.span.stop ∧ span.isValidIn source = true

/-- Every match fits. -/
theorem Regex.findAt?_fits (r : Regex) (source : String) (offset : Nat) (found : Match)
    (h : r.findAt? source offset = some found) : found.Fits source offset := by
  simp only [findAt?, bind, Option.bind_eq_some_iff] at h
  rcases h with ⟨place, hplace, last, hlast, hfound⟩
  rcases Place.seek?_eq_some source offset place hplace with ⟨hoffset, before, hcut⟩
  rcases Code.matchAt?_leads hlast with ⟨piece, hleads⟩
  rw [hleads.rest] at hcut
  have hstop : last.place.offset = offset + byteLength piece := by
    rw [hleads.offset, hoffset]
  have hspan : Covers offset piece ⟨offset, last.place.offset⟩ :=
    ⟨[], piece, [], by rw [List.nil_append, List.append_nil], rfl, hstop⟩
  simp only [pure, Option.some.injEq] at hfound
  rw [← hfound]
  refine ⟨rfl, hspan.isValidIn hcut, fun index span hgroup => ?_⟩
  have hcovers : Covers offset piece span := by
    unfold Match.group? at hgroup
    by_cases hzero : index = 0
    · rw [if_pos hzero, Option.some.injEq] at hgroup
      rwa [← hgroup]
    · rw [if_neg hzero] at hgroup
      rcases hleads.groups with ⟨noted, hgroups, hnoted⟩
      rw [List.append_nil] at hgroups
      rw [hgroups, List.lookup_eq_some_iff] at hgroup
      rcases hgroup with ⟨front, back, hsplit, _⟩
      have hmem : (index, span) ∈ noted := by
        simp only at hsplit
        rw [hsplit]
        exact List.mem_append_right _ List.mem_cons_self
      have hin := hnoted _ hmem
      rwa [hoffset] at hin
  have hbounds := hcovers.bounds
  refine ⟨hbounds.1, ?_, hcovers.isValidIn hcut⟩
  rw [hstop]
  exact hbounds.2

end Highlighter
