import Highlighter.Transformer
import Highlighter.Proofs.Keyed
import Mathlib.Data.List.Induction

/-!
# Which rule applies

The rule that a transformer chooses, told from the calls that set its rules.

A call sets one rule for some keys. The key of the fallback may be among them, and
then the call replaces the fallback as well, which is kept apart from the table of the
other rules. The two places make one map from keys to rules, `ruleUnder?`, and a call
writes this map in the same way wherever a key is kept. So each key holds the rule of
the last call that names it, and the key of the fallback holds the first fallback if
no call names it.

That the two places never overlap is needed once more. A token may have the key of
the fallback for its type, and its rule is looked up in the table like any other.
The table has no rule under that key, so the fallback applies.

## Main definitions

* `RuleCall`: A call that sets a rule.
* `Transformer.ofCalls`: The transformer that some calls make of a fallback.
* `Transformer.lastRule?`: The rule of the last call that names a key.
* `Transformer.ruleUnder?`: What a transformer holds under a key.

## Theorems

* `Transformer.lookup_setRule`: The table after a rule is set.
* `Transformer.ruleUnder?_set`, `Transformer.ruleUnder?_setAll`: What is held under a
  key after a call.
* `Transformer.lookup_unknown_setAll`: The key of the fallback stays out of the
  table.
* `Transformer.ruleUnder?_ofCalls`, `Transformer.lookup_unknown_ofCalls`: The same
  after all calls.
* `Transformer.fallback_ofCalls`, `Transformer.lookup_ofCalls`: The two places read
  off the map.
* `Transformer.transform_ofCalls`: The last call that names a type decides.
-/

namespace Highlighter

/-- A call that sets a rule for some keys. -/
structure RuleCall (ω : Type) where
  /-- The keys. -/
  keys : List String
  /-- The rule. -/
  rule : Rule ω

namespace Transformer

variable {ω : Type}

/-- The transformer that some calls make of the one with a fallback only. -/
def ofCalls (fallback : Rule ω) (calls : List (RuleCall ω)) : Transformer ω :=
  calls.foldl (fun t call => (t.add call.keys call.rule).value) { fallback }

/-- The rule of the last call that names a key. -/
def lastRule? (key : String) (calls : List (RuleCall ω)) : Option (Rule ω) :=
  (calls.reverse.find? fun call => call.keys.contains key).map (·.rule)

/-- What a transformer holds under a key. The fallback stands under its own key. -/
def ruleUnder? (t : Transformer ω) (key : String) : Option (Rule ω) :=
  if key = TokenType.unknown then some t.fallback else t.rules.lookup key

/-! ## Setting rules -/

theorem setRule_eq_putIn (key : String) (rule : Rule ω) (rules : List (String × Rule ω)) :
    setRule key rule rules = putIn key rule rules := by
  induction rules with
  | nil => rfl
  | cons entry rest ih =>
      rcases entry with ⟨k, r⟩
      rw [setRule, putIn, ih]
      by_cases hk : k = key
      · rw [if_pos hk, if_pos hk, hk]
      · rw [if_neg hk, if_neg hk]

theorem lookup_setRule (key k : String) (rule : Rule ω) (rules : List (String × Rule ω)) :
    (setRule key rule rules).lookup k = if k = key then some rule else rules.lookup k := by
  rw [setRule_eq_putIn, lookup_putIn]

/-- Setting a rule replaces what is held under its key, in the table or outside. -/
theorem ruleUnder?_set (t : Transformer ω) (key k : String) (rule : Rule ω) :
    (t.set key rule).ruleUnder? k = if k = key then some rule else t.ruleUnder? k := by
  unfold set ruleUnder?
  by_cases hkey : key = TokenType.unknown
  · rw [if_pos hkey, hkey]
    by_cases hk : k = TokenType.unknown
    · rw [if_pos hk, if_pos hk]
    · rw [if_neg hk, if_neg hk, if_neg hk]
  · rw [if_neg hkey]
    by_cases hk : k = TokenType.unknown
    · have hne : k ≠ key := fun h => hkey (h ▸ hk)
      rw [if_pos hk, if_neg hne]
      exact (if_pos hk).symm
    · rw [if_neg hk, lookup_setRule]
      exact congrArg _ (if_neg hk).symm

theorem lookup_unknown_set (t : Transformer ω) (key : String) (rule : Rule ω) :
    (t.set key rule).rules.lookup TokenType.unknown = t.rules.lookup TokenType.unknown := by
  unfold set
  by_cases hkey : key = TokenType.unknown
  · rw [if_pos hkey]
  · rw [if_neg hkey, lookup_setRule, if_neg fun h => hkey h.symm]

/-- A call replaces what is held under its keys. -/
theorem ruleUnder?_setAll (t : Transformer ω) (keys : List String) (k : String) (rule : Rule ω) :
    (t.setAll keys rule).ruleUnder? k = if k ∈ keys then some rule else t.ruleUnder? k := by
  induction keys generalizing t with
  | nil =>
      rw [if_neg List.not_mem_nil]
      rfl
  | cons key keys ih =>
      have hcons : t.setAll (key :: keys) rule = (t.set key rule).setAll keys rule := rfl
      rw [hcons, ih, ruleUnder?_set]
      by_cases hin : k ∈ keys
      · rw [if_pos hin, if_pos (List.mem_cons_of_mem key hin)]
      · have hfirst : k = key ↔ k ∈ key :: keys := by rw [List.mem_cons, or_iff_left hin]
        rw [if_neg hin]
        exact if_congr hfirst rfl rfl

/-- A call leaves the key of the fallback out of the table. -/
theorem lookup_unknown_setAll (t : Transformer ω) (keys : List String) (rule : Rule ω) :
    (t.setAll keys rule).rules.lookup TokenType.unknown = t.rules.lookup TokenType.unknown := by
  induction keys generalizing t with
  | nil => rfl
  | cons key keys ih => exact (ih (t.set key rule)).trans (lookup_unknown_set t key rule)

/-! ## All calls -/

theorem lastRule?_concat (key : String) (calls : List (RuleCall ω)) (call : RuleCall ω) :
    lastRule? key (calls ++ [call])
      = if key ∈ call.keys then some call.rule else lastRule? key calls := by
  rw [lastRule?, List.reverse_append, List.reverse_singleton, List.singleton_append,
    List.find?_cons]
  by_cases hkey : key ∈ call.keys
  · rw [if_pos hkey, List.contains_iff_mem.mpr hkey]
    rfl
  · rw [if_neg hkey, Bool.eq_false_iff.mpr fun h => hkey (List.contains_iff_mem.mp h)]
    rfl

theorem isSome_lastRule?_iff (key : String) (calls : List (RuleCall ω)) :
    (lastRule? key calls).isSome = true ↔ ∃ call ∈ calls, key ∈ call.keys := by
  rw [lastRule?, Option.isSome_map, List.find?_isSome]
  simp only [List.mem_reverse, List.contains_iff_mem]

theorem ofCalls_concat (fallback : Rule ω) (calls : List (RuleCall ω)) (call : RuleCall ω) :
    ofCalls fallback (calls ++ [call]) = (ofCalls fallback calls).setAll call.keys call.rule := by
  rw [ofCalls, List.foldl_append]
  rfl

/-- Under each key there is the rule of the last call that names it. -/
theorem ruleUnder?_ofCalls (fallback : Rule ω) (calls : List (RuleCall ω)) (k : String) :
    (ofCalls fallback calls).ruleUnder? k = (lastRule? k calls).or
      (if k = TokenType.unknown then some fallback else none) := by
  -- The last call decides first, so the calls are taken from the end.
  induction calls using List.reverseRecOn with
  | nil => rfl
  | append_singleton calls call ih =>
      rw [ofCalls_concat, ruleUnder?_setAll, lastRule?_concat, ih]
      by_cases hk : k ∈ call.keys
      · rw [if_pos hk, if_pos hk, Option.some_or]
      · rw [if_neg hk, if_neg hk]

theorem lookup_unknown_ofCalls (fallback : Rule ω) (calls : List (RuleCall ω)) :
    (ofCalls fallback calls).rules.lookup TokenType.unknown = none := by
  induction calls using List.reverseRecOn with
  | nil => rfl
  | append_singleton calls call ih => rw [ofCalls_concat, lookup_unknown_setAll, ih]

/-- The fallback is the rule of the last call that names its key. -/
theorem fallback_ofCalls (fallback : Rule ω) (calls : List (RuleCall ω)) :
    (ofCalls fallback calls).fallback = (lastRule? TokenType.unknown calls).getD fallback := by
  have hunder := ruleUnder?_ofCalls fallback calls TokenType.unknown
  rw [ruleUnder?, if_pos rfl, if_pos rfl, Option.or_some] at hunder
  exact Option.some.inj hunder

/-- In the table, there is the rule of the last call that names a type. -/
theorem lookup_ofCalls (fallback : Rule ω) (calls : List (RuleCall ω)) {type : String}
    (htype : type ≠ TokenType.unknown) :
    (ofCalls fallback calls).rules.lookup type = lastRule? type calls := by
  have hunder := ruleUnder?_ofCalls fallback calls type
  rw [ruleUnder?, if_neg htype, if_neg htype, Option.or_none] at hunder
  exact hunder

/-- The last call that names the type of a token decides about its rule. If no call
    does, or the type is the key of the fallback, then the fallback applies, which is
    the rule of the last call that names this key and the first fallback otherwise. A
    type has a rule of its own if some call names it. -/
theorem transform_ofCalls (fallback : Rule ω) (calls : List (RuleCall ω)) :
    (∀ token : Token, (ofCalls fallback calls).transform token
      = (((if token.type = TokenType.unknown then none else lastRule? token.type calls).getD
        ((lastRule? TokenType.unknown calls).getD fallback)) token)) ∧
    (∀ type, (ofCalls fallback calls).hasRule type = true ↔
      type = TokenType.unknown ∨ ∃ call ∈ calls, type ∈ call.keys) ∧
    ∀ text position, (ofCalls fallback calls).transform ⟨TokenType.unknown, text, position⟩
      = (ofCalls fallback calls).fallback ⟨TokenType.unknown, text, position⟩ := by
  have hunknown : (ofCalls fallback calls).rule TokenType.unknown
      = (ofCalls fallback calls).fallback := by
    rw [rule, lookup_unknown_ofCalls, Option.getD_none]
  refine ⟨fun token => ?_, fun type => ?_, fun text position => ?_⟩
  · rw [transform, ← fallback_ofCalls]
    by_cases htype : token.type = TokenType.unknown
    · rw [if_pos htype, htype, hunknown, Option.getD_none]
    · rw [if_neg htype, rule, lookup_ofCalls fallback calls htype]
  · rw [← isSome_lastRule?_iff, hasRule, Bool.or_eq_true, beq_iff_eq]
    by_cases htype : type = TokenType.unknown
    · exact iff_of_true (Or.inl htype) (Or.inl htype)
    · rw [lookup_ofCalls fallback calls htype]
  · rw [transform, hunknown]

-- The first call replaces the fallback as well, and the last one takes a key from it.
example : ["a", "b", "c", "(unknown)"].map (fun type => (ofCalls (fun _ => 0)
    [⟨["a", "(unknown)", "b", "a"], fun _ => 1⟩, ⟨[], fun _ => 2⟩, ⟨["b"], fun _ => 3⟩]).transform
      ⟨type, "", 0⟩) = [1, 3, 1, 1] := by rfl

end Transformer

end Highlighter
