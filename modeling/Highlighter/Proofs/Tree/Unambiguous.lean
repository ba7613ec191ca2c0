import Highlighter.Proofs.Text.Escaping
import Highlighter.Proofs.Tree.Legible

/-!
# Unambiguous written forms

Why no text and no attribute value can pass for a part of the document.

A tree can be told from its written form if it is known where each of its parts
ends. A tag ends at the first blank or closing bracket, the name of an attribute at
the first equals sign, its value at the first double quote, and a text at the first
opening bracket. None of these characters is left in what comes before it: names do
not have them, and in values and texts they are escaped. What is left is to know
whether another child follows. It does unless a bracket and a slash follow, for no
tag begins with a slash.

So the written form is read from the left, and the parts are told one after the
other. `eq_of_toHtmlAll_append` says this with something behind the trees, since the
children of an element stand before its end tag. No text can pass for an element
then, and no value for another attribute or for the end of a tag. Whatever they are
replaced by, the outline of the document is what it was.

## Main definitions

* `Node.Closes`: where some trees may end.

## Theorems

* `List.eq_of_append_eq`: A list is cut in one way where a test first fails.
* `Node.attributes_eq_of_append_eq`: Attributes can be told from what is written.
* `Node.Legible.not_closes`: Nothing ends where a tree begins.
* `Node.eq_of_toHtml_append`, `Node.eq_of_toHtmlAll_append`: Trees can be told from
  what is written, and so can what follows them.
* `Node.fragment_toHtml_inj`: Different fragments are written differently.
* `Node.fragment_toHtml_inj_hostile`: A text and a value that look like elements.
-/

namespace Highlighter

/-- A list is cut in one way where the first element stands that fails a test. -/
theorem List.eq_of_append_eq {α : Type} {p : α → Prop} {xs ys u v : List α}
    (hxs : ∀ a ∈ xs, p a) (hys : ∀ a ∈ ys, p a) (hu : ∀ a ∈ u.head?, ¬p a)
    (hv : ∀ a ∈ v.head?, ¬p a) (h : xs ++ u = ys ++ v) : xs = ys ∧ u = v := by
  induction xs generalizing ys with
  | nil =>
      rcases ys with _ | ⟨b, ys⟩
      · exact ⟨rfl, h⟩
      · rw [List.nil_append] at h
        rw [h] at hu
        exact absurd (hys b List.mem_cons_self) (hu b rfl)
  | cons a xs ih =>
      rcases ys with _ | ⟨b, ys⟩
      · rw [List.nil_append] at h
        rw [← h] at hv
        exact absurd (hxs a List.mem_cons_self) (hv a rfl)
      · rw [List.cons_append, List.cons_append, List.cons.injEq] at h
        rw [List.forall_mem_cons] at hxs hys
        rcases ih hxs.2 hys.2 h.2 with ⟨htail, hrest⟩
        exact ⟨by rw [h.1, htail], hrest⟩

/-- What all members have in common the first one has. -/
theorem List.exists_cons_of_forall {α : Type} {p : α → Prop} {xs : List α} (hne : xs ≠ [])
    (h : ∀ a ∈ xs, p a) : ∃ a ys, xs = a :: ys ∧ p a := by
  rcases List.exists_cons_of_ne_nil hne with ⟨a, ys, rfl⟩
  exact ⟨a, ys, rfl, h a List.mem_cons_self⟩

/-- No start tag looks like an end tag. -/
theorem IsName.exists_cons {s : String} (h : IsName s) : ∃ c w, s.toList = c :: w ∧ c ≠ '/' :=
  List.exists_cons_of_forall (mt String.toList_eq_nil_iff.mp h.1) fun _ hc => h.ne hc (by decide)

namespace Node

/-! ## Tags -/

theorem toList_attributesHtml_cons (name value : String) (rest : List (String × String)) :
    (attributesHtml ((name, value) :: rest)).toList
      = ' ' :: (name.toList ++ '=' :: '"' :: ((Text.escapeAttribute value).toList
          ++ '"' :: (attributesHtml rest).toList)) := by
  have hblank : " ".toList = [' '] := rfl
  have hequals : "=\"".toList = ['=', '"'] := rfl
  have hquote : "\"".toList = ['"'] := rfl
  simp only [attributesHtml, String.toList_append, List.append_assoc, hblank, hequals, hquote,
    List.cons_append, List.nil_append]

theorem toList_toHtml_element (tag : String) (attributes : List (String × String))
    (cs : List Node) :
    (element tag attributes cs).toHtml.toList
      = '<' :: (tag.toList ++ ((attributesHtml attributes).toList
          ++ '>' :: ((toHtmlAll cs).toList ++ '<' :: '/' :: (tag.toList ++ ['>'])))) := by
  rw [toHtml]
  simp only [String.toList_append, List.append_assoc]
  rfl

/-- Attributes can be told from what is written for them in a tag. -/
theorem attributes_eq_of_append_eq {as bs : List (String × String)}
    (has : ∀ a ∈ as, IsName a.1) (hbs : ∀ b ∈ bs, IsName b.1) {u v : List Char}
    (h : (attributesHtml as).toList ++ '>' :: u = (attributesHtml bs).toList ++ '>' :: v) :
    as = bs ∧ u = v := by
  induction as generalizing bs with
  | nil =>
      rcases bs with _ | ⟨⟨name, value⟩, bs⟩
      · exact ⟨rfl, (List.cons.inj h).2⟩
      · rw [toList_attributesHtml_cons] at h
        cases (List.cons.inj h).1
  | cons a as ih =>
      rcases a with ⟨name, value⟩
      rcases bs with _ | ⟨⟨name', value'⟩, bs⟩
      · rw [toList_attributesHtml_cons] at h
        cases (List.cons.inj h).1
      · rw [List.forall_mem_cons] at has hbs
        simp only [toList_attributesHtml_cons, List.cons_append, List.append_assoc,
          List.cons.injEq, true_and] at h
        -- The name ends at the equals sign, and the value at the second quote.
        have hname := List.eq_of_append_eq (p := (· ≠ '='))
          (fun c hc => has.1.ne hc (by decide)) (fun c hc => hbs.1.ne hc (by decide))
          (by simp) (by simp) h
        have hvalue := List.eq_of_append_eq (p := (· ≠ '"'))
          (fun c => Text.ne_of_mem_escapeAttribute) (fun c => Text.ne_of_mem_escapeAttribute)
          (by simp) (by simp) (List.cons.inj (List.cons.inj hname.2).2).2
        rcases ih has.2 hbs.2 (List.cons.inj hvalue.2).2 with ⟨hrest, huv⟩
        have hn : name = name' := String.toList_inj.mp hname.1
        have hv : value = value' := Text.escapeAttribute_inj hvalue.1
        rw [hn, hv, hrest]
        exact ⟨rfl, huv⟩

/-- A tag ends where its attributes or the closing bracket begin. -/
theorem head?_attributesHtml (attributes : List (String × String)) (u : List Char) :
    ∀ c ∈ ((attributesHtml attributes).toList ++ '>' :: u).head?, ¬(c ≠ ' ' ∧ c ≠ '>') := by
  intro c hc hne
  rcases attributes with _ | ⟨⟨name, value⟩, rest⟩
  · exact hne.2 (Option.some.inj hc).symm
  · rw [toList_attributesHtml_cons] at hc
    exact hne.1 (Option.some.inj hc).symm

theorem tag_eq_of_append_eq {tag tag' : String} {as bs : List (String × String)}
    (htag : IsName tag) (htag' : IsName tag') (has : ∀ a ∈ as, IsName a.1)
    (hbs : ∀ b ∈ bs, IsName b.1) {u v : List Char}
    (h : tag.toList ++ ((attributesHtml as).toList ++ '>' :: u)
      = tag'.toList ++ ((attributesHtml bs).toList ++ '>' :: v)) :
    tag = tag' ∧ as = bs ∧ u = v := by
  have hplain : ∀ {s : String}, IsName s → ∀ c ∈ s.toList, c ≠ ' ' ∧ c ≠ '>' :=
    fun hs c hc => ⟨hs.ne hc (by decide), hs.ne hc (by decide)⟩
  have hsplit := List.eq_of_append_eq (hplain htag) (hplain htag')
    (head?_attributesHtml as u) (head?_attributesHtml bs v) h
  exact ⟨String.toList_inj.mp hsplit.1, attributes_eq_of_append_eq has hbs hsplit.2⟩

/-! ## Trees -/

/-- Some trees end here: nothing follows them, or an end tag. -/
def Closes (u : List Char) : Prop := u = [] ∨ ∃ w, u = '<' :: '/' :: w

theorem exists_cons_escape {s : String} (h : s.isEmpty = false) :
    ∃ c w, (Text.escape s).toList = c :: w ∧ c ≠ '<' :=
  List.exists_cons_of_forall (Text.escape_ne_nil h) fun _ hc => (Text.ne_of_mem_escape hc).1

/-- Nothing ends where a tree begins. -/
theorem Legible.not_closes {n : Node} (h : Legible [n]) (u : List Char) :
    ¬Closes (n.toHtml.toList ++ u) := by
  rcases h.cases with ⟨s, rfl, hs⟩ | ⟨tag, attributes, cs, rfl⟩
  · rcases exists_cons_escape hs with ⟨c, w, hcw, hc⟩
    rw [toHtml, hcw]
    rintro (hnil | ⟨w', hw⟩)
    · cases hnil
    · exact hc (List.cons.inj hw).1
  · rcases h.of_element.1.exists_cons with ⟨c, w, hcw, hc⟩
    rw [toList_toHtml_element, hcw]
    rintro (hnil | ⟨w', hw⟩)
    · cases hnil
    · exact hc (List.cons.inj (List.cons.inj hw).2).1

/-- Behind a text there is a tag, or nothing. -/
theorem Legible.head?_of_text {s : String} {ns : List Node} (h : Legible (text s :: ns))
    {u : List Char} (hu : Closes u) : ∀ c ∈ ((toHtmlAll ns).toList ++ u).head?, c = '<' := by
  intro c hc
  rcases ns with _ | ⟨n, ns⟩
  · rcases hu with rfl | ⟨w, rfl⟩
    · cases hc
    · exact (Option.some.inj hc).symm
  · rcases h.of_cons.2.of_cons.1.cases with ⟨t, rfl, _⟩ | ⟨tag, attributes, cs, rfl⟩
    · exact absurd ⟨rfl, rfl⟩ h.tidy.apart.rel
    · rw [toHtmlAll, String.toList_append, toList_toHtml_element] at hc
      exact (Option.some.inj hc).symm

mutual

/-- A tree can be told from its written form, and so can what follows it. Behind a
    text this has to be a tag. -/
theorem eq_of_toHtml_append : ∀ {n m : Node} {u v : List Char}, Legible [n] → Legible [m] →
    (∀ s, n = text s → ∀ c ∈ u.head?, c = '<') →
    (∀ s, m = text s → ∀ c ∈ v.head?, c = '<') →
    n.toHtml.toList ++ u = m.toHtml.toList ++ v → n = m ∧ u = v
  | element tag attributes cs, m, u, v => by
    intro hn hm _ _ h
    rcases hm.cases with ⟨t, rfl, ht⟩ | ⟨tag', attributes', cs', rfl⟩
    · -- A text does not begin with a bracket.
      rcases exists_cons_escape ht with ⟨c, w, hcw, hc⟩
      rw [toList_toHtml_element, toHtml, hcw] at h
      exact absurd (List.cons.inj h).1.symm hc
    · -- The start tag is told first, then the children up to the end tag. The end tags
      -- are equal then, and what is behind them is left.
      rcases hn.of_element with ⟨htag, hnames, hcs⟩
      rcases hm.of_element with ⟨htag', hnames', hcs'⟩
      simp only [toList_toHtml_element, List.cons_append, List.append_assoc, List.cons.injEq,
        true_and] at h
      rcases tag_eq_of_append_eq htag htag' hnames hnames' h with ⟨rfl, rfl, hinner⟩
      have hchildren := eq_of_toHtmlAll_append hcs hcs' (.inr ⟨_, rfl⟩) (.inr ⟨_, rfl⟩) hinner
      have hclose := (List.cons.inj (List.cons.inj hchildren.2).2).2
      rw [hchildren.1]
      exact ⟨rfl, (List.cons.inj (List.append_cancel_left hclose)).2⟩
  | text s, m, u, v => by
    intro hn hm hu hv h
    rcases hm.cases with ⟨t, rfl, _⟩ | ⟨tag, attributes, cs, rfl⟩
    · -- Both texts end at the first bracket.
      rw [toHtml, toHtml] at h
      have hsplit := List.eq_of_append_eq (p := (· ≠ '<'))
        (fun c hc => (Text.ne_of_mem_escape hc).1) (fun c hc => (Text.ne_of_mem_escape hc).1)
        (fun c hc => not_not_intro (hu s rfl c hc)) (fun c hc => not_not_intro (hv t rfl c hc)) h
      rw [Text.escape_inj hsplit.1]
      exact ⟨rfl, hsplit.2⟩
    · rcases exists_cons_escape (hn.tidy.filled _ List.mem_cons_self) with ⟨c, w, hcw, hc⟩
      rw [toList_toHtml_element, toHtml, hcw] at h
      exact absurd (List.cons.inj h).1 hc
  | markup s, _, _, _ => fun hn => absurd List.mem_cons_self (hn.markupFree s)
  | fragment cs, _, _, _ => fun hn => nomatch hn.tidy.whole _ List.mem_cons_self

/-- Trees can be told from their written form, up to the place where they end. -/
theorem eq_of_toHtmlAll_append : ∀ {ns ms : List Node} {u v : List Char}, Legible ns →
    Legible ms → Closes u → Closes v →
    (toHtmlAll ns).toList ++ u = (toHtmlAll ms).toList ++ v → ns = ms ∧ u = v
  | [], [], _, _ => fun _ _ _ _ h => ⟨rfl, h⟩
  | [], m :: ms, u, v => by
    intro _ hms hu _ h
    simp only [toHtmlAll, String.toList_append, List.append_assoc, String.toList_empty,
      List.nil_append] at h
    -- The one list has ended where the other one goes on with a tree.
    rw [h] at hu
    exact absurd hu (hms.of_cons.1.not_closes _)
  | n :: ns, [], u, v => by
    intro hns _ _ hv h
    simp only [toHtmlAll, String.toList_append, List.append_assoc, String.toList_empty,
      List.nil_append] at h
    rw [← h] at hv
    exact absurd hv (hns.of_cons.1.not_closes _)
  | n :: ns, m :: ms, u, v => by
    intro hns hms hu hv h
    simp only [toHtmlAll, String.toList_append, List.append_assoc] at h
    have hfirst := eq_of_toHtml_append hns.of_cons.1 hms.of_cons.1
      (fun _ hn => (hn ▸ hns).head?_of_text hu) (fun _ hm => (hm ▸ hms).head?_of_text hv) h
    have hrest := eq_of_toHtmlAll_append hns.of_cons.2 hms.of_cons.2 hu hv hfirst.2
    rw [hfirst.1, hrest.1]
    exact ⟨rfl, hrest.2⟩

end

/-- Two legible fragments are written alike only if they are equal. So whatever the
    texts and the values of one are replaced by, what is written is that of no
    fragment with another outline. -/
theorem fragment_toHtml_inj {ns ms : List Node} (hns : Legible ns) (hms : Legible ms) :
    ((fragment ns).toHtml = (fragment ms).toHtml ↔ fragment ns = fragment ms) ∧
      ∀ f g : String → String, (∀ s, f s ≠ "") →
        ((fragment ns).reword f g).toHtml = (fragment ms).toHtml →
          (fragment ns).outline = (fragment ms).outline := by
  have hread : ∀ {ns : List Node}, Legible ns →
      (fragment ns).toHtml = (fragment ms).toHtml → fragment ns = fragment ms := by
    intro ns hns heq
    have hall : (toHtmlAll ns).toList ++ [] = (toHtmlAll ms).toList ++ [] := by
      rw [show toHtmlAll ns = toHtmlAll ms from heq]
    rw [(eq_of_toHtmlAll_append hns hms (.inl rfl) (.inl rfl) hall).1]
  refine ⟨⟨hread hns, fun heq => congrArg toHtml heq⟩, fun f g hf heq => ?_⟩
  rw [← hread (hns.reword g hf) heq]
  exact (outline_reword f g (fragment ns)).symm

/-- A paragraph with a value that looks like the end of its tag and another tag, and
    with a text that looks like its end tag and another paragraph. -/
def hostile : List Node := [element "p" [("title", "\"><b>")] [text "</b></p><p>&lt;</p>"]]

/-- What the paragraph looks like if nothing is escaped. -/
def imitated : List Node :=
  [element "p" [("title", "")] [element "b" [] []], element "p" [] [text "<"]]

/-- Neither this value and this text nor others make the paragraph pass for what it
    looks like. -/
theorem fragment_toHtml_inj_hostile :
    Legible hostile ∧ Legible imitated ∧
      (fragment hostile).toHtml ≠ (fragment imitated).toHtml ∧
      ∀ f g : String → String, (∀ s, f s ≠ "") →
        ((fragment hostile).reword f g).toHtml ≠ (fragment imitated).toHtml := by
  have htitle : IsName "title" := ⟨by decide, by simp⟩
  have hp : IsName "p" := ⟨by decide, by simp⟩
  have hb : IsName "b" := ⟨by decide, by simp⟩
  have htitles : ∀ value : String, ∀ a ∈ [("title", value)], IsName a.1 :=
    fun _ => List.forall_mem_singleton.mpr htitle
  have hhostile : Legible hostile := legible_element hp (htitles _) (legible_text rfl)
  have hbold : Legible [element "b" [] []] := legible_element hb (List.forall_mem_nil _) legible_nil
  have himitated : Legible imitated :=
    .cons (legible_element hp (htitles _) hbold)
      (legible_element hp (List.forall_mem_nil _) (legible_text rfl)) fun h => nomatch h.1
  have houtline : (fragment hostile).outline ≠ (fragment imitated).outline := by decide
  have hinj := fragment_toHtml_inj hhostile himitated
  refine ⟨hhostile, himitated, fun heq => houtline (congrArg outline (hinj.1.mp heq)), ?_⟩
  exact fun f g hf heq => houtline (hinj.2 f g hf heq)

end Node

end Highlighter
