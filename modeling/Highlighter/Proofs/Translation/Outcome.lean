import Highlighter.Proofs.Tree.Delivery
import Highlighter.Translator

/-!
# The outcome of a translation

What a translation returns, told apart from how it is put together.

Both kinds of translator work on the outputs one by one and stop at the first
error. What they return depends on the outputs only by way of `collect`, which
answers with all outputs or with that error. So a translation is a function of
some outputs, applied under `collect`, and what is to be said about translators
can be said about lists of outputs.

## Main definitions

* `collect`: all values of a list of outcomes, or its first error.

## Theorems

* `collect_eq_ok_iff`: All values come back if there is no error.
* `collect_eq_error_iff`, `collect_eq_error`: The first error comes back if there is
  one.
* `exists_collect_map_ok_iff`, `collect_map_eq_error_iff`: What is collected from the
  members of a list.
* `collect_map`: Changing the values changes what is collected.
* `Translator.exists_tokens`, `Translator.exists_transform_of_mem`: The outputs
  come from the tokens of the scan.
* `Translator.joinTexts_eq`, `Translator.deliverAll_tree`: The two ways of putting
  outputs together.
* `Translator.translateInto_value`: What the sink of trees makes of the outputs.
* `Translator.translateText_value`, `Translator.translateTree_value`: What the two
  kinds of translator return.
-/

namespace Highlighter

variable {α β : Type}

/-- All values of a list of outcomes, or its first error. -/
def collect : List (Except Error α) → Except Error (List α)
  | [] => .ok []
  | .error e :: _ => .error e
  | .ok a :: rest => (collect rest).map (a :: ·)

theorem collect_eq_ok_iff (items : List (Except Error α)) (values : List α) :
    collect items = .ok values ↔ items = values.map .ok := by
  constructor
  · intro h
    induction items generalizing values with
    | nil =>
        rw [collect, Except.ok.injEq] at h
        rw [← h, List.map_nil]
    | cons item rest ih =>
        cases item with
        | error e =>
            rw [collect] at h
            cases h
        | ok a =>
            rw [collect] at h
            cases hrest : collect rest with
            | error e =>
                rw [hrest] at h
                cases h
            | ok as =>
                rw [hrest, Except.map, Except.ok.injEq] at h
                rw [← h, List.map_cons, ih as hrest]
  · intro h
    rw [h]
    clear h
    induction values with
    | nil => rfl
    | cons a values ih => rw [List.map_cons, collect, ih, Except.map]

/-- The first error is what is collected, with values only in front of it. -/
theorem collect_eq_error_iff (items : List (Except Error α)) (e : Error) :
    collect items = .error e ↔ ∃ (values : List α) (rest : List (Except Error α)),
      items = values.map .ok ++ .error e :: rest := by
  constructor
  · intro h
    induction items with
    | nil => simp only [collect, reduceCtorEq] at h
    | cons item items ih =>
        cases item with
        | error e' =>
            rw [collect, Except.error.injEq] at h
            exact ⟨[], items, by rw [h, List.map_nil, List.nil_append]⟩
        | ok a =>
            rw [collect] at h
            rcases hrest : collect items with e' | as
            · rw [hrest, Except.map, Except.error.injEq] at h
              rcases ih (hrest.trans (congrArg Except.error h)) with ⟨values, rest, hitems⟩
              exact ⟨a :: values, rest, by rw [hitems, List.map_cons, List.cons_append]⟩
            · simp only [hrest, Except.map, reduceCtorEq] at h
  · rintro ⟨values, rest, hitems⟩
    rw [hitems]
    clear hitems
    induction values with
    | nil => rw [List.map_nil, List.nil_append, collect]
    | cons a values ih => rw [List.map_cons, List.cons_append, collect, ih, Except.map]

theorem collect_eq_error (items : List (Except Error α)) (e : Error)
    (h : collect items = .error e) : .error e ∈ items := by
  rcases (collect_eq_error_iff items e).mp h with ⟨values, rest, hitems⟩
  rw [hitems]
  exact List.mem_append_right _ List.mem_cons_self

/-- Values are collected from a list if each of its members leads to one. -/
theorem exists_collect_map_ok_iff (f : β → Except Error α) (xs : List β) :
    (∃ values, collect (xs.map f) = .ok values) ↔ ∀ x ∈ xs, ∃ a, f x = .ok a := by
  constructor
  · rintro ⟨values, hvalues⟩ x hx
    have hmem : f x ∈ values.map .ok := by
      rw [← (collect_eq_ok_iff _ values).mp hvalues]
      exact List.mem_map_of_mem hx
    rcases List.mem_map.mp hmem with ⟨a, _, ha⟩
    exact ⟨a, ha.symm⟩
  · intro hall
    rcases hvalues : collect (xs.map f) with e | values
    · -- An error would come from one of the members.
      rcases List.mem_map.mp (collect_eq_error _ e hvalues) with ⟨x, hx, hfx⟩
      rcases hall x hx with ⟨a, ha⟩
      rw [ha] at hfx
      cases hfx
    · exact ⟨values, rfl⟩

/-- What is collected from a list fails with the error of the first member that does
    not lead to a value. -/
theorem collect_map_eq_error_iff (f : β → Except Error α) (xs : List β) (e : Error) :
    collect (xs.map f) = .error e ↔ ∃ before x after, xs = before ++ x :: after ∧
      (∀ y ∈ before, ∃ a, f y = .ok a) ∧ f x = .error e := by
  rw [collect_eq_error_iff]
  constructor
  · rintro ⟨values, rest, hitems⟩
    rcases List.map_eq_append_iff.mp hitems with ⟨before, tail, hxs, hbefore, htail⟩
    rcases List.map_eq_cons_iff.mp htail with ⟨x, after, hsplit, hfx, _⟩
    refine ⟨before, x, after, by rw [hxs, hsplit], ?_, hfx⟩
    exact (exists_collect_map_ok_iff f before).mp ⟨values, (collect_eq_ok_iff _ values).mpr hbefore⟩
  · rintro ⟨before, x, after, hxs, hbefore, hfx⟩
    rcases (exists_collect_map_ok_iff f before).mpr hbefore with ⟨values, hvalues⟩
    refine ⟨values, after.map f, ?_⟩
    rw [hxs, List.map_append, List.map_cons, (collect_eq_ok_iff _ values).mp hvalues, hfx]

theorem collect_map (f : α → β) (items : List (Except Error α)) :
    collect (items.map (Except.map f)) = (collect items).map (List.map f) := by
  induction items with
  | nil => rfl
  | cons item rest ih =>
      cases item with
      | error e => rfl
      | ok a =>
          rw [List.map_cons, Except.map, collect, ih, collect]
          cases collect rest with
          | error e => rfl
          | ok as => rfl

namespace Translator

variable {σ ω : Type} {m : Type → Type} [Monad m] [LawfulMonad m]

/-- The outputs are what the transformer makes of the items of the scan. -/
theorem outputs_value (t : Translator σ ω) (source : String) (context : σ) :
    (t.outputs source context).value
      = (t.scanner.scan source context).value.1.map (Except.map t.transformer.transform) := rfl

/-- If there is no error, the outputs are what the transformer makes of the tokens
    of the scan. -/
theorem exists_tokens (t : Translator σ ω) (source : String) (context : σ) (values : List ω)
    (hvalues : collect (t.outputs source context).value = .ok values) :
    ∃ tokens : List Token, (t.scanner.scan source context).value.1 = tokens.map .ok ∧
      values = tokens.map t.transformer.transform := by
  rw [outputs_value, collect_map] at hvalues
  rcases htokens : collect (t.scanner.scan source context).value.1 with e | tokens
  · simp only [htokens, Except.map, reduceCtorEq] at hvalues
  · rw [htokens, Except.map, Except.ok.injEq] at hvalues
    exact ⟨tokens, (collect_eq_ok_iff _ tokens).mp htokens, hvalues.symm⟩

/-- If there is no error, every output is what the transformer makes of a token. -/
theorem exists_transform_of_mem (t : Translator σ ω) (source : String) (context : σ)
    (values : List ω) (hvalues : collect (t.outputs source context).value = .ok values)
    (value : ω) (hmem : value ∈ values) : ∃ token, t.transformer.transform token = value := by
  rcases exists_tokens t source context values hvalues with ⟨tokens, _, hfrom⟩
  rw [hfrom] at hmem
  rcases List.mem_map.mp hmem with ⟨token, _, htoken⟩
  exact ⟨token, htoken⟩

theorem joinTexts_eq (items : List (Except Error String)) :
    joinTexts items = (collect items).map String.join := by
  induction items with
  | nil => rw [joinTexts, collect, Except.map, String.join_nil]
  | cons item rest ih =>
      cases item with
      | error e => rfl
      | ok s =>
          rw [joinTexts, ih, collect]
          cases collect rest with
          | error e => rfl
          | ok ss => simp only [Except.map, String.join_cons]

theorem deliverAll_tree (mode : InputMode) (target : Node)
    (items : List (Except Error Node)) :
    deliverAll (Sink.tree : Sink m Node) mode target items
      = pure ((collect items).map fun ns => target.appendAll (Node.deliveredEach mode ns)) := by
  induction items generalizing target with
  | nil => rfl
  | cons item rest ih =>
      cases item with
      | error e => rfl
      | ok n =>
          rw [deliverAll, Node.deliver_tree, pure_bind, Sink.tree_append, pure_bind, ih, collect]
          cases collect rest with
          | error e => rfl
          | ok ns => rfl

/-- A text translator returns the outputs joined. -/
theorem translateText_value (t : Translator σ String) (source : String) (context : σ) :
    (t.translateText source context).value
      = (collect (t.outputs source context).value).map String.join :=
  joinTexts_eq (t.outputs source context).value

/-- What the sink of trees makes of the outputs, in normal form. The sink keeps no
    state, so it makes the same in any monad. -/
theorem translateInto_value (t : Translator σ Node) (source : String) (context : σ)
    (mode : InputMode) :
    (t.translateInto source context (Sink.tree : Sink m Node) mode).value
      = pure ((collect (t.outputs source context).value).map fun ns =>
          ((Node.fragment []).appendAll (Node.deliveredEach mode ns)).normalize) := by
  have hdeliver := deliverAll_tree (m := m) mode (.fragment []) (t.outputs source context).value
  unfold translateInto
  simp only [Logged.map_value, Logged.after_value, Sink.tree, pure_bind] at hdeliver ⊢
  rw [hdeliver, pure_bind]
  cases collect (t.outputs source context).value with
  | error e => rfl
  | ok ns => rfl

/-- A tree translator returns what the sink makes of the outputs, in normal form. -/
theorem translateTree_value (t : Translator σ Node) (source : String) (context : σ)
    (mode : InputMode) :
    (t.translateTree source context mode).value
      = (collect (t.outputs source context).value).map fun ns =>
          ((Node.fragment []).appendAll (Node.deliveredEach mode ns)).normalize :=
  translateInto_value (m := Id) t source context mode

end Translator

end Highlighter
