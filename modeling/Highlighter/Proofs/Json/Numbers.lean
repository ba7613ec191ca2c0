import Highlighter.Proofs.Json.Lists

/-!
# Numbers in JSON

A written integer is read as it was, if it is one of the integers that are kept
exactly.

The reader adds digit after digit as long as the number stays exact, and turns to
floating-point numbers if it does not. The number read so far never becomes smaller,
so if the whole number is exact, no digit is left, and it remains an integer unless
a fraction or an exponent follows. Neither begins with a mark that can stand behind
a value. A number that starts with a zero has to be taken on its own, since no digit
may follow; the only one that is written so is zero.

## Main definitions

* `Json.NatForm`: plain decimal.

## Theorems

* `Json.significand_append`: All digits of an exact number are taken.
* `Json.natForm_writeNat`: An integer is written in plain decimal.
* `Json.readNumber_writeNat`: A written integer is read as it was.
* `Json.expectNat_writeNat`, `Json.expectNat?_writeNat`: Also where it may be absent.
-/

namespace Highlighter

namespace Json

/-- Plain decimal: the digits of a number, without a zero at the front unless it is
    the only digit. -/
structure NatForm (n : Nat) (w : List Char) : Prop where
  /-- There is a digit. -/
  ne_nil : w ≠ []
  /-- There are only digits. -/
  digits : ∀ c ∈ w, c.isDigit = true
  /-- The digits stand for the number. -/
  value : Nat.ofDigitChars 10 w 0 = n
  /-- No other digit follows a zero at the front. -/
  zero : w.head? = some '0' → w = ['0']

/-! ## Digits -/

/-- A number does not become smaller by more digits. -/
theorem le_ofDigitChars (digits : List Char) (n : Nat) : n ≤ Nat.ofDigitChars 10 digits n := by
  induction digits generalizing n with
  | nil => exact Nat.le_refl n
  | cons c digits ih =>
      rw [Nat.ofDigitChars_cons]
      have hmore := ih (10 * n + (c.toNat - '0'.toNat))
      omega

/-- All digits of an exact number are taken, and nothing else. -/
theorem significand_append {digits rest : List Char} (hdigits : ∀ c ∈ digits, c.isDigit = true)
    (hrest : ∀ c ∈ rest.head?, c.isDigit = false) {n : Nat}
    (hexact : Nat.ofDigitChars 10 digits n ≤ maxNat) :
    significand n (digits ++ rest) = (Nat.ofDigitChars 10 digits n, rest) := by
  induction digits generalizing n with
  | nil =>
      rcases rest with _ | ⟨c, rest⟩
      · rfl
      · have hstop : ¬(c.isDigit = true ∧ 10 * n + (c.toNat - '0'.toNat) ≤ maxNat) := by
          rw [hrest c rfl]
          exact fun hdigit => nomatch hdigit.1
        rw [List.nil_append, significand, if_neg hstop, Nat.ofDigitChars_nil]
  | cons c digits ih =>
      rw [List.forall_mem_cons] at hdigits
      rw [Nat.ofDigitChars_cons] at hexact ⊢
      -- What is read so far is no larger than the whole number.
      have hnext := Nat.le_trans (le_ofDigitChars _ _) hexact
      rw [List.cons_append, significand, if_pos ⟨hdigits.1, hnext⟩]
      exact ih hdigits.2 hexact

/-- Only zero is written with a zero at the front. -/
theorem head?_writeNat {n : Nat} (h : (writeNat n).head? = some '0') : n = 0 := by
  induction n using Nat.strongRecOn with
  | ind n ih =>
      rcases Nat.lt_or_ge n 10 with hsmall | hlarge
      · rw [writeNat, Nat.toDigits_of_lt_base hsmall, List.head?_cons, Option.some.injEq] at h
        exact Nat.digitChar_eq_zero.mp h
      · -- The first digit is that of the number without its last one, which is not zero.
        rcases List.exists_cons_of_ne_nil (Nat.toDigits_ne_nil (n := n / 10) (b := 10))
          with ⟨d, ds, hds⟩
        rw [writeNat, Nat.toDigits_of_base_le (by decide) hlarge, hds, List.cons_append,
          List.head?_cons] at h
        have hrest := ih (n / 10) (by omega) (by rw [writeNat, hds, List.head?_cons, h])
        omega

/-- An integer is written in plain decimal. -/
theorem natForm_writeNat (n : Nat) : NatForm n (writeNat n) where
  ne_nil := Nat.toDigits_ne_nil
  digits _ hc := Nat.isDigit_of_mem_toDigits (by decide) (by decide) hc
  value := Nat.ofDigitChars_ten_toDigits
  zero h := by rw [head?_writeNat h]; rfl

theorem exists_writeNat (n : Nat) : ∃ d ds, writeNat n = d :: ds ∧ d.isDigit = true := by
  rcases natForm_writeNat n with ⟨hne, hdigits, _, _⟩
  rcases List.exists_cons_of_ne_nil hne with ⟨d, ds, hds⟩
  exact ⟨d, ds, hds, hdigits d (by rw [hds]; exact List.mem_cons_self)⟩

/-! ## Numbers -/

theorem Delimited.isDigit {rest : List Char} (h : Delimited rest) :
    ∀ c ∈ rest.head?, c.isDigit = false := by
  intro c hc
  rcases mem_marks.mp (h c hc) with rfl | rfl | rfl <;> rfl

/-- Where a value ends, an integer has neither a fraction nor an exponent. -/
theorem numberEnd_of_delimited {rest : List Char} (h : Delimited rest) (n : Nat) :
    numberEnd false n rest = .ok (.natural n, rest) := by
  rcases rest with _ | ⟨c, rest⟩
  · rfl
  · rcases mem_marks.mp (h c rfl) with rfl | rfl | rfl <;> rfl

/-- A written integer is read as it was. -/
theorem readNumber_writeNat {n : Nat} (hn : n ≤ maxNat) {rest : List Char} (h : Delimited rest) :
    readNumber false (writeNat n ++ rest) = .ok (.natural n, rest) := by
  rcases natForm_writeNat n with ⟨_, hdigits, hvalue, hfront⟩
  rcases exists_writeNat n with ⟨d, ds, hds, hd⟩
  by_cases hzero : d = '0'
  · -- The reader takes a zero on its own, and there is no other digit.
    have halone := hfront (by rw [hds, hzero, List.head?_cons])
    have hn0 : 0 = n := by rw [← hvalue, halone]; rfl
    rw [halone, ← hn0]
    rcases rest with _ | ⟨c, rest⟩
    · rfl
    · rw [List.singleton_append, readNumber]
      simp only [h.isDigit c rfl, Bool.false_eq_true, if_false]
      exact numberEnd_of_delimited h 0
  · -- All digits are taken, so none is left for a floating-point number.
    have htaken : significand 0 (d :: (ds ++ rest)) = (n, rest) := by
      rw [← hvalue] at hn
      have hall := significand_append hdigits h.isDigit hn
      rw [hvalue, hds] at hall
      exact hall
    rw [hds, List.cons_append, readNumber]
    · simp only [hd, Bool.not_true, Bool.false_eq_true, if_false, htaken]
      rcases rest with _ | ⟨c, rest⟩
      · rfl
      · simp only [h.isDigit c rfl, Bool.false_eq_true, if_false]
        exact numberEnd_of_delimited h n
    · exact hzero

/-! ## Expected integers -/

theorem ne_of_isDigit {c d : Char} (hc : c.isDigit = true) (hd : d.isDigit = false) : c ≠ d := by
  rintro rfl
  rw [hc] at hd
  cases hd

theorem isSpace_of_isDigit {c : Char} (h : c.isDigit = true) : isSpace c = false := by
  have hne : ∀ d : Char, d.isDigit = false → (c == d) = false :=
    fun d hd => beq_false_of_ne (ne_of_isDigit h hd)
  rw [isSpace, hne ' ' rfl, hne '\n' rfl, hne '\t' rfl, hne '\r' rfl]
  rfl

theorem expectNat_writeNat {n : Nat} (hn : n ≤ maxNat) {rest : List Char} (h : Delimited rest) :
    expectNat (writeNat n ++ rest) = .ok (n, rest) := by
  rcases exists_writeNat n with ⟨d, ds, hds, hd⟩
  have hread := readNumber_writeNat hn h
  rw [hds, List.cons_append] at hread ⊢
  rw [expectNat, skip_cons (isSpace_of_isDigit hd)]
  -- It begins with a digit, so there is no sign to be taken.
  have hminus : d ≠ '-' := ne_of_isDigit hd (by decide)
  simp only [hd, if_true, hread]
  rfl

theorem expectNat?_writeNat {n : Nat} (hn : n ≤ maxNat) {rest : List Char} (h : Delimited rest) :
    expectNat? (writeNat n ++ rest) = .ok (some n, rest) := by
  rcases exists_writeNat n with ⟨d, ds, hds, hd⟩
  have hread := expectNat_writeNat hn h
  rw [hds, List.cons_append] at hread ⊢
  rw [expectNat?, skip_cons (isSpace_of_isDigit hd)]
  -- For the same reason it is not taken for an absent value.
  have hnull : ∀ cs, d :: (ds ++ rest) = 'n' :: cs → False :=
    fun _ heq => ne_of_isDigit hd (by decide) (List.cons.inj heq).1
  simp only [hread]
  rfl

end Json

end Highlighter
