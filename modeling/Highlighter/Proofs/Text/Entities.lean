import Highlighter.Proofs.Text.Escaping
import Mathlib.Data.List.Infix

/-!
# Entities that are cut

When markup can be read piece by piece.

Reading markup resolves an entity only if the whole of it is there. So what is read
of two pieces, one after the other, is what is read of both together, unless an
entity begins in the one and ends in the other. A piece that ends in the beginning
of an entity is cut there. If it is not cut, nothing that stands behind it can
matter, and if it is, then the rest of the entity does. `uncut_iff` says that this
is all there is to it.

An entity has one ampersand, and begins with it. Therefore nothing is cut in front
of an ampersand, whatever stands before, and a text that was escaped is not cut
anywhere.

## Main definitions

* `Text.entities`: the entities and what they stand for.
* `Text.IsStub`: the beginning of an entity that is not all of it.
* `Text.Uncut`: a text that does not end in such a beginning.
* `Text.Unbroken`: two pieces without an entity across their border.

## Theorems

* `Text.entity_induction`: Induction along the reading of markup.
* `Text.unescapeChars_append`: Pieces without an entity across their border can be
  read on their own.
* `Text.Uncut.append`, `Text.uncut_flatMap_escapeChar`: Texts that are not cut.
* `Text.uncut_iff`: What stands behind a text matters only if the text is cut.
* `Text.unescape_append`, `Text.unescape_escape`: The same for strings.
-/

namespace Highlighter

namespace Text

/-! ## Entities -/

/-- The entities that are resolved in markup, with what they stand for. -/
def entities : List (List Char × Char) :=
  [("&amp;".toList, '&'), ("&lt;".toList, '<'), ("&gt;".toList, '>'), ("&quot;".toList, '"'),
    ("&#39;".toList, '\'')]

-- The only ampersand of an entity is the first character.
theorem ampersand_entities :
    ∀ e ∈ entities, e.1.head? = some '&' ∧ '&' ∉ e.1.tail := by decide

theorem unescapeChars_entity {e : List Char × Char} (he : e ∈ entities) (cs : List Char) :
    unescapeChars (e.1 ++ cs) = e.2 :: unescapeChars cs := by
  simp only [entities, List.mem_cons, List.not_mem_nil, or_false] at he
  rcases he with rfl | rfl | rfl | rfl | rfl <;> rfl

theorem unescapeChars_of_none {c : Char} {cs : List Char}
    (h : ∀ e ∈ entities, ¬e.1 <+: c :: cs) : unescapeChars (c :: cs) = c :: unescapeChars cs := by
  have hnone : ∀ e ∈ entities, ∀ rest, c :: cs ≠ e.1 ++ rest :=
    fun e he rest heq => h e he ⟨rest, heq.symm⟩
  simp only [entities, List.forall_mem_cons] at hnone
  rcases hnone with ⟨hamp, hlt, hgt, hquot, hapos, _⟩
  -- The reader asks for the five entities one by one before it takes the character.
  rw [unescapeChars]
  all_goals rintro rest rfl rfl
  exacts [hamp rest rfl, hlt rest rfl, hgt rest rfl, hquot rest rfl, hapos rest rfl]

/-- Induction along the reading of markup: an entity is read as a whole, and a
    character on its own if no entity begins with it. -/
@[elab_as_elim]
theorem entity_induction {motive : List Char → Prop} (nil : motive [])
    (entity : ∀ e ∈ entities, ∀ cs, motive cs → motive (e.1 ++ cs))
    (char : ∀ c cs, (∀ e ∈ entities, ¬e.1 <+: c :: cs) → motive cs → motive (c :: cs))
    (cs : List Char) : motive cs := by
  -- An entity takes several characters at once, so the length is what goes down.
  induction hlength : cs.length using Nat.strongRecOn generalizing cs with
  | _ k ih =>
      rcases cs with _ | ⟨c, cs⟩
      · exact nil
      · by_cases hbegins : ∃ e ∈ entities, e.1 <+: c :: cs
        · rcases hbegins with ⟨e, he, rest, hrest⟩
          have hshorter : rest.length < k := by
            have hne : e.1 ≠ [] := fun h => by simpa [h] using (ampersand_entities e he).1
            have hlong : 0 < e.1.length := List.length_pos_iff.mpr hne
            rw [← hlength, ← hrest, List.length_append]
            omega
          rw [← hrest]
          exact entity e he rest (ih _ hshorter rest rfl)
        · have hnone : ∀ e ∈ entities, ¬e.1 <+: c :: cs := fun e he h => hbegins ⟨e, he, h⟩
          have hshorter : cs.length < k := by
            rw [← hlength, List.length_cons]
            omega
          exact char c cs hnone (ih _ hshorter cs rfl)

theorem unescapeChars_ne_nil {cs : List Char} (h : cs ≠ []) : unescapeChars cs ≠ [] := by
  induction cs using entity_induction with
  | nil => exact absurd rfl h
  | entity e he cs =>
      rw [unescapeChars_entity he]
      exact List.cons_ne_nil _ _
  | char c cs hnone =>
      rw [unescapeChars_of_none hnone]
      exact List.cons_ne_nil _ _

/-! ## Pieces -/

/-- No entity begins in the one piece and ends in the other. -/
def Unbroken (cs ds : List Char) : Prop :=
  ∀ p, p <:+ cs → p ≠ [] → ∀ e ∈ entities, e.1 <+: p ++ ds → e.1 <+: p

theorem Unbroken.of_suffix {cs cs' ds : List Char} (h : Unbroken cs ds) (hsuffix : cs' <:+ cs) :
    Unbroken cs' ds :=
  fun p hp => h p (hp.trans hsuffix)

theorem unescapeChars_append {cs ds : List Char} (h : Unbroken cs ds) :
    unescapeChars (cs ++ ds) = unescapeChars cs ++ unescapeChars ds := by
  -- Both readings take the same entities and characters from the first piece.
  induction cs using entity_induction with
  | nil => rfl
  | entity e he cs ih =>
      have hrest := ih (h.of_suffix (List.suffix_append e.1 cs))
      rw [List.append_assoc, unescapeChars_entity he, unescapeChars_entity he, hrest,
        List.cons_append]
  | char c cs hnone ih =>
      have hrest := ih (h.of_suffix (List.suffix_cons c cs))
      have hnone' : ∀ e ∈ entities, ¬e.1 <+: c :: (cs ++ ds) := fun e he hbegins =>
        hnone e he (h (c :: cs) List.suffix_rfl (List.cons_ne_nil c cs) e he hbegins)
      rw [List.cons_append, unescapeChars_of_none hnone', unescapeChars_of_none hnone, hrest,
        List.cons_append]

/-- An entity ends before an ampersand if it begins before it. -/
theorem unbroken_ampersand (cs ds : List Char) : Unbroken cs ('&' :: ds) := by
  intro p _ hne e he hbegins
  rcases List.prefix_or_prefix_of_prefix hbegins (List.prefix_append p ('&' :: ds)) with
    hin | ⟨q, hq⟩
  · exact hin
  · rcases q with _ | ⟨c, q⟩
    · rw [← hq, List.append_nil]
    · -- The ampersand would be in the entity, but not as its first character.
      rw [← hq, List.prefix_append_right_inj, List.cons_prefix_cons] at hbegins
      rcases p with _ | ⟨d, p⟩
      · exact absurd rfl hne
      · refine absurd ?_ (ampersand_entities e he).2
        rw [← hq, hbegins.1, List.cons_append, List.tail_cons]
        exact List.mem_append_right p List.mem_cons_self

/-! ## Cuts -/

/-- The beginning of an entity that is neither empty nor all of it. -/
def IsStub (p : List Char) : Prop := p ≠ [] ∧ ∃ e ∈ entities, p <+: e.1 ∧ p ≠ e.1

/-- The text does not end in the beginning of an entity. -/
def Uncut (cs : List Char) : Prop := ∀ p, p <:+ cs → ¬IsStub p

instance (p : List Char) : Decidable (IsStub p) :=
  inferInstanceAs (Decidable (p ≠ [] ∧ ∃ e ∈ entities, p <+: e.1 ∧ p ≠ e.1))

instance (cs : List Char) : Decidable (Uncut cs) :=
  decidable_of_iff (∀ p ∈ cs.tails, ¬IsStub p) (by simp only [List.mem_tails, Uncut])

theorem IsStub.of_prefix {p q : List Char} (h : IsStub p) (hq : q <+: p) (hne : q ≠ []) :
    IsStub q := by
  rcases h with ⟨_, e, he, hp, hproper⟩
  refine ⟨hne, e, he, hq.trans hp, fun hall => hproper ?_⟩
  -- Nothing is left of the entity behind the longer beginning.
  have hlength : p.length ≤ q.length := by
    rw [hall]
    exact hp.length_le
  rw [← hq.eq_of_length_le hlength, hall]

theorem IsStub.head?_eq {p : List Char} (h : IsStub p) : p.head? = some '&' := by
  rcases h with ⟨hne, e, he, ⟨q, hq⟩, _⟩
  rw [← (ampersand_entities e he).1, ← hq, List.head?_append_of_ne_nil p hne]

theorem uncut_nil : Uncut [] := fun _ hp hstub => hstub.1 (List.suffix_nil.mp hp)

theorem uncut_singleton {c : Char} (h : c ≠ '&') : Uncut [c] := by
  intro p hp hstub
  rcases List.suffix_cons_iff.mp hp with hself | hnil
  · have hhead := hstub.head?_eq
    rw [hself, List.head?_cons, Option.some.injEq] at hhead
    exact h hhead
  · exact hstub.1 (List.suffix_nil.mp hnil)

/-- A piece that is not cut, behind another one. -/
theorem Uncut.append {cs ds : List Char} (hcs : Uncut cs) (hds : Uncut ds) : Uncut (cs ++ ds) := by
  intro p hp hstub
  -- A beginning at the end of both reaches into the first piece, or it does not.
  rcases List.suffix_or_suffix_of_suffix hp (List.suffix_append cs ds) with hin | ⟨q, hq⟩
  · exact hds p hin hstub
  · rw [← hq, List.suffix_append_self_iff] at hp
    by_cases hnil : q = []
    · rw [← hq, hnil] at hstub
      exact hds ds List.suffix_rfl hstub
    · exact hcs q hp (hstub.of_prefix ⟨ds, hq⟩ hnil)

/-- What is written for a text is not cut. -/
theorem uncut_flatMap_escapeChar (cs : List Char) : Uncut (cs.flatMap escapeChar) := by
  have hentity : ∀ e ∈ textEntities, Uncut e := by decide
  induction cs with
  | nil => exact uncut_nil
  | cons c cs ih =>
      rw [List.flatMap_cons]
      refine Uncut.append ?_ ih
      rcases escapeChar_cases c with ⟨hself, hamp, _⟩ | hmem
      · rw [hself]
        exact uncut_singleton hamp
      · exact hentity _ hmem

theorem Uncut.unbroken {cs : List Char} (h : Uncut cs) (ds : List Char) : Unbroken cs ds := by
  intro p hp hne e he hbegins
  -- Two beginnings of one text: the entity is the shorter, or the piece is cut.
  rcases List.prefix_or_prefix_of_prefix hbegins (List.prefix_append p ds) with hin | hout
  · exact hin
  · by_cases hall : p = e.1
    · rw [hall]
    · exact absurd ⟨hne, e, he, hout, hall⟩ (h p hp)

/-- What stands behind a text can be read on its own, whatever it is, exactly if
    the text is not cut. -/
theorem uncut_iff (cs : List Char) :
    Uncut cs ↔ ∀ ds, unescapeChars (cs ++ ds) = unescapeChars cs ++ unescapeChars ds := by
  constructor
  · exact fun h ds => unescapeChars_append (h.unbroken ds)
  · -- The rest of the entity is read with the cut text as one character, and without
    -- it both parts of the entity are read as something.
    rintro h p ⟨before, hp⟩ ⟨hne, e, he, ⟨q, hq⟩, hproper⟩
    have hq' : q ≠ [] := by
      rintro rfl
      rw [List.append_nil] at hq
      exact hproper hq
    have hsplit : ∀ ds, unescapeChars (before ++ (p ++ ds))
        = unescapeChars before ++ unescapeChars (p ++ ds) := by
      intro ds
      have hhead := IsStub.head?_eq ⟨hne, e, he, ⟨q, hq⟩, hproper⟩
      rcases p with _ | ⟨c, p⟩
      · exact absurd rfl hne
      · rw [List.head?_cons, Option.some.injEq] at hhead
        rw [hhead]
        exact unescapeChars_append (unbroken_ampersand before _)
    have hentity : unescapeChars (p ++ q) = [e.2] := by
      rw [hq, ← List.append_nil e.1, unescapeChars_entity he]
      rfl
    have hpieces := h q
    have hcut := hsplit []
    rw [List.append_nil] at hcut
    rw [← hp, List.append_assoc, hsplit, hcut, hentity, List.append_assoc,
      List.append_cancel_left_eq] at hpieces
    have hlengths := congrArg List.length hpieces
    have hfirst : 0 < (unescapeChars p).length := List.length_pos_iff.mpr (unescapeChars_ne_nil hne)
    have hsecond : 0 < (unescapeChars q).length :=
      List.length_pos_iff.mpr (unescapeChars_ne_nil hq')
    rw [List.length_singleton, List.length_append] at hlengths
    omega

/-! ## Strings -/

theorem unescape_append {s : String} (h : Uncut s.toList) (t : String) :
    unescape (s ++ t) = unescape s ++ unescape t := by
  rw [unescape, String.toList_append, (uncut_iff s.toList).mp h, String.ofList_append]
  rfl

/-- Behind a text that is cut something can stand that is read in another way than
    on its own. -/
theorem exists_unescape_append_ne {s : String} (h : ¬Uncut s.toList) :
    ∃ t, unescape (s ++ t) ≠ unescape s ++ unescape t := by
  rw [uncut_iff, not_forall] at h
  rcases h with ⟨ds, hds⟩
  refine ⟨String.ofList ds, fun heq => hds ?_⟩
  have hlists := congrArg String.toList heq
  simp only [unescape, String.toList_append, String.toList_ofList] at hlists
  exact hlists

theorem uncut_escape (s : String) : Uncut (escape s).toList := by
  rw [toList_escape]
  exact uncut_flatMap_escapeChar s.toList

theorem unescape_escape (s : String) : unescape (escape s) = s := by
  rw [unescape, toList_escape, unescapeChars_flatMap unescapeChars_escapeChar, String.ofList_toList]

end Text

end Highlighter
